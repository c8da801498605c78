import Parley.Proofs.SharedKey.Lookup

/-!
Servers that wait for a key. A hello that is put off is handled later as it would have been at once,
with whatever came behind it still there, and no server asks for a key again once it has answered.
-/

namespace Parley.SharedKey

variable {κ : Type} [KeyStore κ]

/-! ## Putting off -/

variable {handler : SharedKey} {blob other : Blob} {supplies others : Supplies κ} {later : κ}
  {user : String}

omit [KeyStore κ] in
theorem onLookup_stock (handler : SharedKey) (user : String) (nonce : Bytes) (answer : KeyLookup)
    (supplies : Supplies κ) (keys : κ) :
    handler.onLookup user nonce (answer, supplies.stock keys) =
      restock keys (handler.onLookup user nonce (answer, supplies)) := by
  cases answer with
  | found key => exact challenge_stock handler supplies keys user nonce key
  | missing =>
      simp only [onLookup]
      generalize handler.reject _ = result
      rfl
  | locked seconds => rfl

def puttingOff (handler : SharedKey) (blob : Blob) : SharedKey :=
  match handler.upcoming? (pending blob) with
  | some (message, inbox) => { handler with inbox, deferred := some message }
  | none => handler

omit [KeyStore κ] in
theorem coming_of_seeks (sought : handler.seeks? blob = some user) :
    ∃ message inbox, handler.upcoming? (pending blob) = some (message, inbox) ∧
      handler.wanted? message = some user := by
  obtain ⟨⟨message, inbox⟩, coming, wanted⟩ := Option.bind_eq_some_iff.mp sought
  exact ⟨message, inbox, coming, wanted⟩

omit [KeyStore κ] in
theorem upcoming_puttingOff {message : Message} {inbox : Inbox}
    (coming : handler.upcoming? (pending blob) = some (message, inbox))
    (nothing : pending other = []) :
    (handler.puttingOff blob).upcoming? (pending other) = some (message, inbox) := by
  rw [puttingOff, coming, nothing]
  simp only [upcoming?, List.append_nil]

omit [KeyStore κ] in
theorem seeks?_puttingOff (sought : handler.seeks? blob = some user)
    (nothing : pending other = []) : (handler.puttingOff blob).seeks? other = some user := by
  obtain ⟨message, inbox, coming, wanted⟩ := coming_of_seeks sought
  rw [seeks?, upcoming_puttingOff coming nothing, puttingOff, coming]
  exact wanted

omit [KeyStore κ] in
theorem puttingOff_puttingOff (sought : handler.seeks? blob = some user)
    (nothing : pending other = []) :
    (handler.puttingOff blob).puttingOff other = handler.puttingOff blob := by
  obtain ⟨message, inbox, coming, wanted⟩ := coming_of_seeks sought
  rw [puttingOff, upcoming_puttingOff coming nothing, puttingOff, coming]

theorem lookup_stock {answer : KeyLookup}
    (looked : KeyStore.lookup supplies.keys user = (answer, later)) :
    supplies.lookup user = (answer, supplies.stock later) := by
  rw [Supplies.lookup, looked]
  rfl

theorem read_of_locked {seconds : Nat} (sought : handler.seeks? blob = some user)
    (locked : KeyStore.lookup supplies.keys user = (.locked seconds, later)) :
    handler.read blob supplies =
      ⟨.ok (.wait seconds), handler.puttingOff blob, blob.taken, supplies.stock later⟩ := by
  obtain ⟨message, inbox, coming, wanted⟩ := coming_of_seeks sought
  obtain ⟨nonce, rfl, asks⟩ :=
    onMessage_wanted (κ := κ) { handler with inbox, deferred := none } wanted
  rw [read_of_next handler blob supplies (nextMessage_of_upcoming handler coming), asks,
    lookup_stock locked, puttingOff, coming]
  rfl

omit [KeyStore κ] in
theorem stock_of_nonces {one two : κ} (nonces : others.nonces = supplies.nonces) :
    others.stock two = (supplies.stock one).stock two := by
  rw [Supplies.stock, nonces]
  rfl

theorem read_anew {answer : KeyLookup} {one two : κ} (sought : handler.seeks? blob = some user)
    (nonces : others.nonces = supplies.nonces)
    (first : KeyStore.lookup supplies.keys user = (answer, one))
    (second : KeyStore.lookup others.keys user = (answer, two)) :
    handler.read blob others = (handler.read blob supplies).stock two := by
  obtain ⟨message, inbox, coming, wanted⟩ := coming_of_seeks sought
  obtain ⟨nonce, rfl, asks⟩ :=
    onMessage_wanted (κ := κ) { handler with inbox, deferred := none } wanted
  have found := nextMessage_of_upcoming handler coming
  rw [read_of_next handler blob supplies found, read_of_next handler blob others found, asks, asks,
    lookup_stock first, lookup_stock second, stock_of_nonces nonces, onLookup_stock]
  rfl

theorem read_puttingOff {answer : KeyLookup} {one two : κ}
    (sought : handler.seeks? blob = some user) (nothing : pending other = [])
    (nonces : others.nonces = supplies.nonces)
    (first : KeyStore.lookup supplies.keys user = (answer, one))
    (second : KeyStore.lookup others.keys user = (answer, two)) :
    (handler.puttingOff blob).read other others =
      { (handler.read blob supplies).stock two with blob := other.taken } := by
  obtain ⟨message, inbox, coming, wanted⟩ := coming_of_seeks sought
  obtain ⟨nonce, rfl, asks⟩ :=
    onMessage_wanted (κ := κ) { handler with inbox, deferred := none } wanted
  have found := nextMessage_of_upcoming handler coming
  have again := nextMessage_of_upcoming _ (upcoming_puttingOff coming nothing)
  have same : ({ handler.puttingOff blob with inbox, deferred := none } : SharedKey) =
      { handler with inbox, deferred := none } := by
    rw [puttingOff, coming]
  rw [same] at again
  rw [read_of_next handler blob supplies found, read_of_next _ other others again, asks, asks,
    lookup_stock first, lookup_stock second, stock_of_nonces nonces, onLookup_stock]
  rfl

/-! ## After the answer -/

def PastHello (handler : SharedKey) : Prop := handler.step = .awaitProof ∨ handler.step = .done

omit [KeyStore κ] in
theorem step_nextMessage {next : SharedKey} {message : Message}
    (found : handler.nextMessage = .ok (some (message, next))) : next.step = handler.step := by
  simp only [nextMessage] at found
  split at found
  · cases found
    rfl
  · split at found <;> cases found
    rfl

omit [KeyStore κ] in
theorem PastHello.seeks? (past : handler.PastHello) (blob : Blob) :
    handler.seeks? blob = none := by
  have step : handler.step ≠ .awaitHello := by rcases past with step | step <;> simp [step]
  refine Option.bind_eq_none_iff.mpr fun (message, inbox) _ => ?_
  cases message with
  | hello protocol user nonce => exact if_neg fun acceptable => step acceptable.2.1
  | _ => rfl

theorem PastHello.read (past : handler.PastHello) {mode : Mode}
    (worked : (handler.read blob supplies).answer = .ok mode) :
    (handler.read blob supplies).handler.PastHello := by
  have reading := reading_read handler blob supplies
  rw [worked] at reading
  generalize (handler.read blob supplies).handler = last at reading ⊢
  generalize (handler.read blob supplies).surroundings = later at reading
  cases reading with
  | incomplete _ => exact past
  | @handled message next _ _ given _ found handled same =>
      have kept : next.step = (handler.receiving _).step := step_nextMessage found
      have step : next.step = handler.step := kept
      obtain ⟨said, response⟩ := response_onMessage next supplies message
      rw [handled] at response
      have givenEq := same.resolve_right fun needs => response.answer_ne needs.1
      subst givenEq
      rw [PastHello, ← step] at past
      have notEarly {other : Prop} {early : Step} (atEarly : next.step = early)
          (earlier : early ≠ .awaitProof) (unfinished : early ≠ .done) : other := by
        rw [atEarly] at past
        exact (past.elim earlier unfinished).elim
      cases response with
      | rejected _ _ _ => exact Or.inr rfl
      | failed => exact Or.inr rfl
      | unbound _ => exact past
      | keyless _ _ => exact past
      | proved _ early _ _ _ _ => exact notEarly early (by simp) (by simp)
      | admitted _ _ _ _ => exact Or.inr rfl
      | delayed _ early _ => exact notEarly early (by simp) (by simp)
      | challenged _ early _ _ _ _ => exact notEarly early (by simp) (by simp)
      | accepted _ _ _ _ _ => exact Or.inr rfl

omit [KeyStore κ] in
theorem PastHello.write (past : handler.PastHello) {mode : Mode}
    (worked : (handler.write blob supplies).answer = .ok mode) :
    (handler.write blob supplies).handler.PastHello := by
  have writing := writing_write handler blob supplies
  rw [worked] at writing
  generalize (handler.write blob supplies).handler = last at writing ⊢
  generalize (handler.write blob supplies).surroundings = later at writing
  have notStart {other : Prop} (start : handler.step = .start) : other := by
    rw [PastHello, start] at past
    simp at past
  have prepared {next : SharedKey} {later : Supplies κ} {mode : Mode}
      (prepared : Preparation handler supplies next later (.ok mode)) : next.PastHello := by
    cases prepared with
    | queued _ => exact past
    | idle _ _ => exact past
    | opened _ start _ => exact notStart start
    | greeted _ start _ _ _ _ => exact notStart start
  cases writing with
  | unready ready _ => exact prepared ready
  | flushed ready flushed =>
      have kept := prepared ready
      cases flushed with
      | partly _ => exact kept
      | wholly => exact kept

omit [KeyStore κ] in
theorem past_reply {message : Message} {settlement : Settlement} (past : handler.PastHello)
    {mode : Mode} (replied : (handler.reply message settlement).2 = .ok mode) :
    mode = .pendingData ∧ (handler.reply message settlement).1.PastHello := by
  rcases reply_cases handler message settlement with ⟨fault, same⟩ | ⟨bytes, _, same⟩
  · rw [same] at replied
    cases replied
  · rw [same] at replied ⊢
    cases replied
    exact ⟨rfl, past⟩

omit [KeyStore κ] in
theorem past_reject {refusal : Refusal} {mode : Mode}
    (rejected : (handler.reject refusal).2 = .ok mode) :
    mode = .pendingData ∧ (handler.reject refusal).1.PastHello := by
  rw [reject] at rejected ⊢
  exact past_reply (Or.inr rfl) rejected

omit [KeyStore κ] in
theorem past_onLookup (handler : SharedKey) (user : String) (nonce : Bytes)
    (supplies : Supplies κ) {answer : KeyLookup} (settled : ∀ seconds, answer ≠ .locked seconds)
    (mode : Mode) (worked : (handler.onLookup user nonce (answer, supplies)).2.2 = .ok mode) :
    mode = .pendingData ∧ (handler.onLookup user nonce (answer, supplies)).1.PastHello := by
  cases answer with
  | found key =>
      simp only [onLookup] at worked ⊢
      rcases drawn : supplies.drawNonce with ⟨_ | own, later⟩
      · rw [challenge, drawn] at worked
        cases worked
      · rw [challenge_of_drawn handler drawn] at worked ⊢
        dsimp only [Prod.map] at worked ⊢
        exact past_reply (Or.inl rfl) worked
  | missing =>
      simp only [onLookup] at worked ⊢
      exact past_reject worked
  | locked seconds => exact absurd rfl (settled seconds)

theorem past_read {answer : KeyLookup} (sought : handler.seeks? blob = some user)
    (looked : KeyStore.lookup supplies.keys user = (answer, later))
    (settled : ∀ seconds, answer ≠ .locked seconds) {mode : Mode}
    (worked : (handler.read blob supplies).answer = .ok mode) :
    mode = .pendingData ∧ (handler.read blob supplies).handler.PastHello := by
  obtain ⟨message, inbox, coming, wanted⟩ := coming_of_seeks sought
  obtain ⟨nonce, rfl, asks⟩ :=
    onMessage_wanted (κ := κ) { handler with inbox, deferred := none } wanted
  have past := past_onLookup { handler with inbox, deferred := none } user nonce
    (supplies.stock later) settled
  rw [read_of_next handler blob supplies (nextMessage_of_upcoming handler coming), asks,
    lookup_stock looked] at worked ⊢
  revert past worked
  generalize onLookup _ user nonce (answer, supplies.stock later) = result
  rcases result with ⟨last, after, _ | given⟩
  · intro worked _
    cases worked
  · intro worked past
    obtain ⟨rfl, answered⟩ := past given rfl
    cases worked
    exact ⟨rfl, answered⟩

/-! ## What makes no difference -/

omit [KeyStore κ] in
theorem seeks?_with (handler : SharedKey) {lifecycle : Lifecycle}
    (role : lifecycle.role = handler.lifecycle.role) (desk blob : Blob) :
    ({ handler with lifecycle, desk } : SharedKey).seeks? blob = handler.seeks? blob := by
  have coming : ({ handler with lifecycle, desk } : SharedKey).upcoming? (pending blob) =
      handler.upcoming? (pending blob) := rfl
  have wanted (message : Message) :
      ({ handler with lifecycle, desk } : SharedKey).wanted? message = handler.wanted? message := by
    cases message with
    | hello protocol user nonce =>
        simp only [wanted?, role]
        rfl
    | _ => rfl
  simp only [seeks?, coming, wanted]

omit [KeyStore κ] in
theorem puttingOff_with (desk blob : Blob) :
    ({ handler with desk } : SharedKey).puttingOff blob = { handler.puttingOff blob with desk } := by
  have coming : ({ handler with desk } : SharedKey).upcoming? (pending blob) =
      handler.upcoming? (pending blob) := rfl
  simp only [puttingOff, coming]
  split <;> rfl

omit [KeyStore κ] in
theorem lifecycle_puttingOff (handler : SharedKey) (blob : Blob) :
    (handler.puttingOff blob).lifecycle = handler.lifecycle := by
  rw [puttingOff]
  split <;> rfl

omit [KeyStore κ] in
theorem consuming_puttingOff (handler : SharedKey) (blob : Blob) :
    (handler.puttingOff blob).consuming = handler.consuming := by
  rw [puttingOff]
  split <;> rfl

theorem carryOn_redesk (idle : handler.consuming = false) {desk : Blob}
    (same : desk.clear = handler.desk.clear) (supplies : Supplies κ) :
    ({ handler with desk } : SharedKey).carryOn supplies = handler.carryOn supplies := by
  have written := write_dress handler.lifecycle.exchange desk handler.consuming handler
    handler.desk.clear supplies
  have redesked : handler.dress handler.lifecycle.exchange desk handler.consuming =
      { handler with desk } := rfl
  rw [redesked] at written
  have roundEq : handler.round supplies = handler.write handler.desk.clear supplies := by
    rw [round, if_neg (by simp [idle])]
  have roundDesk : ({ handler with desk } : SharedKey).round supplies =
      dressTurn handler.lifecycle.exchange desk handler.consuming
        (handler.write handler.desk.clear supplies) := by
    rw [round, if_neg (by simp [idle]), same, written]
  have exchange := (writing_write handler handler.desk.clear supplies).worked.exchange
  have consuming := consuming_write handler handler.desk.clear supplies
  rw [carryOn_eq, carryOn_eq, roundEq, roundDesk]
  generalize handler.write handler.desk.clear supplies = turn at exchange consuming ⊢
  have kept : ({ turn.handler.dress handler.lifecycle.exchange desk handler.consuming with
      desk := turn.blob } : SharedKey) = { turn.handler with desk := turn.blob } := by
    rw [← exchange, ← consuming]
    rfl
  simp only [closeRound, dressTurn, kept]

/-! ## Takeovers -/

/-- The handler that waits in a takeover: it has put off the hello on its desk. -/
def resting (handler : SharedKey) : SharedKey :=
  { handler.puttingOff handler.desk with desk := Blob.blank takeoverCapacity }

omit [KeyStore κ] in
theorem seeks?_resting (sought : handler.seeks? handler.desk = some user) :
    handler.resting.seeks? handler.resting.desk = some user := by
  rw [resting, seeks?_with _ rfl]
  exact seeks?_puttingOff sought (pending_blank takeoverCapacity)

omit [KeyStore κ] in
theorem resting_resting (sought : handler.seeks? handler.desk = some user) :
    handler.resting.resting = handler.resting := by
  have again := puttingOff_puttingOff sought (pending_blank takeoverCapacity)
  have desk : ({ handler.puttingOff handler.desk with
      desk := Blob.blank takeoverCapacity } : SharedKey).puttingOff
        (Blob.blank takeoverCapacity) =
      { handler.puttingOff handler.desk with desk := Blob.blank takeoverCapacity } := by
    rw [puttingOff_with, again]
  simp only [resting]
  rw [desk]

omit [KeyStore κ] in
theorem takeOver_resting (engaged : handler.lifecycle.Engaged .takeover) (desk : Blob)
    (supplies : Supplies κ) :
    ({ handler.puttingOff handler.desk with desk } : SharedKey).takeOver supplies =
      ⟨handler.resting, supplies, .done (handler.resting, none)⟩ := by
  let waiting : SharedKey := { handler.puttingOff handler.desk with desk }
  have kept : waiting.lifecycle = handler.lifecycle := lifecycle_puttingOff handler handler.desk
  have entered : waiting.lifecycle.enter .takeover = (waiting.lifecycle, none) := by
    rw [kept, engaged.open.enter, ← engaged.exchange, ← engaged.stage]
  exact takeOver_of_enter entered supplies

theorem carryOn_of_locked {seconds : Nat} (consuming : handler.consuming = true)
    (sought : handler.seeks? handler.desk = some user)
    (locked : KeyStore.lookup supplies.keys user = (.locked seconds, later)) :
    handler.carryOn supplies =
      let next := { handler.puttingOff handler.desk with desk := handler.desk.taken }
      ⟨next, supplies.stock later, .done (next, some (.ok (.wait seconds)))⟩ := by
  have roundEq : handler.round supplies = _ := if_pos consuming
  rw [carryOn_eq, roundEq, read_of_locked sought locked, closeRound, consuming]
  rfl

def answering (turn : Turn (Supplies κ) SharedKey) : Dialogue (SharedKey × Option Answer) :=
  let next := { turn.handler with desk := turn.blob }
  match turn.answer with
  | .error fault => .done (next.settle (.error fault), some (.error fault))
  | .ok _ => .done ({ next with consuming := false }, none)

omit [KeyStore κ] in
theorem answering_of_fault {turn : Turn (Supplies κ) SharedKey} {fault : Fault}
    (broken : turn.answer = .error fault) :
    answering turn =
      .done (({ turn.handler with desk := turn.blob } : SharedKey).settle (.error fault),
        some (.error fault)) := by
  rw [answering, broken]

omit [KeyStore κ] in
theorem answering_of_mode {turn : Turn (Supplies κ) SharedKey} {mode : Mode}
    (worked : turn.answer = .ok mode) :
    answering turn = .done ({ turn.handler with desk := turn.blob, consuming := false }, none) := by
  rw [answering, worked]

theorem carryOn_of_settled {answer : KeyLookup} (consuming : handler.consuming = true)
    (sought : handler.seeks? handler.desk = some user)
    (looked : KeyStore.lookup supplies.keys user = (answer, later))
    (settled : ∀ seconds, answer ≠ .locked seconds) :
    (handler.carryOn supplies).surroundings =
        (handler.read handler.desk supplies).surroundings ∧
      (handler.carryOn supplies).dialogue = answering (handler.read handler.desk supplies) := by
  have roundEq : handler.round supplies = handler.read handler.desk supplies := if_pos consuming
  rw [carryOn_eq, roundEq, closeRound, answering]
  refine ⟨rfl, ?_⟩
  rcases worked : (handler.read handler.desk supplies).answer with fault | mode
  · rfl
  · obtain ⟨rfl, _⟩ := past_read sought looked settled worked
    dsimp only
    rw [consuming]
    rfl

theorem carryOn_anew {answer : KeyLookup} {one two : κ} (consuming : handler.consuming = true)
    (sought : handler.seeks? handler.desk = some user) (nonces : others.nonces = supplies.nonces)
    (first : KeyStore.lookup supplies.keys user = (answer, one))
    (second : KeyStore.lookup others.keys user = (answer, two)) :
    handler.carryOn others = (handler.carryOn supplies).stock two := by
  have roundEq : handler.round supplies = handler.read handler.desk supplies := if_pos consuming
  have again : handler.round others = handler.read handler.desk others := if_pos consuming
  rw [carryOn_eq, carryOn_eq, roundEq, again, read_anew sought nonces first second]
  rfl

theorem read_resting {answer : KeyLookup} {one two : κ}
    (sought : handler.seeks? handler.desk = some user) (nonces : others.nonces = supplies.nonces)
    (first : KeyStore.lookup supplies.keys user = (answer, one))
    (second : KeyStore.lookup others.keys user = (answer, two)) :
    let turn := handler.read handler.desk supplies
    handler.resting.read handler.resting.desk others =
      ⟨turn.answer, { turn.handler with desk := handler.resting.desk },
        handler.resting.desk.taken, turn.surroundings.stock two⟩ := by
  have dressed : handler.resting = (handler.puttingOff handler.desk).dress
      handler.lifecycle.exchange (Blob.blank takeoverCapacity) handler.consuming := by
    rw [resting, dress, ← lifecycle_puttingOff handler handler.desk,
      ← consuming_puttingOff handler handler.desk]
  have nothing : pending handler.resting.desk = [] := pending_blank takeoverCapacity
  have again := read_puttingOff sought nothing nonces first second
  have exchange := (reading_read handler handler.desk supplies).worked.exchange
  have consuming := consuming_read handler handler.desk supplies
  dsimp only at again ⊢
  have read := read_dress handler.lifecycle.exchange (Blob.blank takeoverCapacity)
    handler.consuming (handler.puttingOff handler.desk) handler.resting.desk others
  rw [← dressed, again, ← exchange, ← consuming] at read
  exact read

/--
A takeover that goes on once the key is there comes to what it would have come to at once, but for
what lies on its desk.
-/
theorem carryOn_resting (supplies others : Supplies κ) {answer : KeyLookup} {one two : κ}
    (consuming : handler.consuming = true) (sought : handler.seeks? handler.desk = some user)
    (nonces : others.nonces = supplies.nonces)
    (first : KeyStore.lookup supplies.keys user = (answer, one))
    (second : KeyStore.lookup others.keys user = (answer, two))
    (settled : ∀ seconds, answer ≠ .locked seconds) :
    (handler.resting.carryOn others).surroundings =
        (handler.carryOn supplies).surroundings.stock two ∧
      ((∃ fault last rest,
        (handler.carryOn supplies).dialogue = .done (last, some (.error fault)) ∧
        (handler.resting.carryOn others).dialogue = .done (rest, some (.error fault))) ∨
      ∃ next, (handler.carryOn supplies).dialogue = .done (next, none) ∧
        (handler.resting.carryOn others).dialogue =
          .done ({ next with desk := Blob.blank takeoverCapacity }, none) ∧
        next.consuming = false ∧ next.PastHello ∧ next.desk = handler.desk.taken) := by
  have consumes : handler.resting.consuming = true :=
    (consuming_puttingOff handler handler.desk).trans consuming
  obtain ⟨oneLeft, oneSaid⟩ := carryOn_of_settled consuming sought first settled
  obtain ⟨twoLeft, twoSaid⟩ := carryOn_of_settled consumes (seeks?_resting sought) second settled
  rw [oneLeft, oneSaid, twoLeft, twoSaid, read_resting sought nonces first second]
  refine ⟨rfl, ?_⟩
  rcases worked : (handler.read handler.desk supplies).answer with fault | mode
  · exact Or.inl ⟨fault, _, _, answering_of_fault worked, answering_of_fault rfl⟩
  · exact Or.inr ⟨_, answering_of_mode worked, answering_of_mode rfl, rfl,
      (past_read sought first settled worked).2, blob_read handler handler.desk supplies⟩

/-! ## Desks -/

omit [KeyStore κ] in
theorem clear_write (handler : SharedKey) (capacity : Nat) (supplies : Supplies κ) :
    (handler.write (Blob.blank capacity) supplies).blob.clear = Blob.blank capacity := by
  rw [write]
  split
  · simp only [flush]
    split <;> exact Blob.clear_write_blank capacity _
  · exact Blob.clear_blank capacity

theorem clear_round (neat : handler.desk.clear = Blob.blank takeoverCapacity)
    (supplies : Supplies κ) :
    (handler.round supplies).blob.clear = Blob.blank takeoverCapacity := by
  rw [round]
  split
  · rw [blob_read]
    exact neat
  · rw [neat]
    exact clear_write handler takeoverCapacity supplies

omit [KeyStore κ] in
theorem clear_obey {next : SharedKey} {mode : Mode}
    (neat : handler.desk.clear = Blob.blank takeoverCapacity)
    (leads : (handler.obey mode).Leads (next, none)) :
    next.desk.clear = Blob.blank takeoverCapacity := by
  cases mode with
  | needData =>
      obtain ⟨received, _, later⟩ := Dialogue.leads_bind_iff.mp leads
      rcases received with fault | frame
      · cases Dialogue.leads_done_iff.mp later
      · cases Dialogue.leads_done_iff.mp later
        dsimp only [Blob.load]
        rw [neat]
        exact Blob.clear_write_blank takeoverCapacity frame
  | pendingData =>
      cases Dialogue.leads_done_iff.mp leads
      exact neat
  | «continue» =>
      cases Dialogue.leads_done_iff.mp leads
      exact neat
  | noMoreData =>
      rw [obey] at leads
      split at leads <;> cases Dialogue.leads_done_iff.mp leads
  | _ => cases Dialogue.leads_done_iff.mp leads

theorem clear_carryOn {next : SharedKey} (neat : handler.desk.clear = Blob.blank takeoverCapacity)
    (leads : (handler.carryOn supplies).dialogue.Leads (next, none)) :
    next.desk.clear = Blob.blank takeoverCapacity := by
  have cleared : ({ (handler.round supplies).handler with
      desk := (handler.round supplies).blob } : SharedKey).desk.clear =
      Blob.blank takeoverCapacity := clear_round neat supplies
  rw [carryOn_eq] at leads
  dsimp only [closeRound] at leads
  split at leads
  · cases Dialogue.leads_done_iff.mp leads
  · split at leads
    · obtain ⟨sent, _, later⟩ := Dialogue.leads_bind_iff.mp leads
      rcases sent with fault | _
      · cases Dialogue.leads_done_iff.mp later
      · exact clear_obey cleared later
    · exact clear_obey cleared leads

end Parley.SharedKey
