import Parley.Proofs.Negotiation.Greeted

/-!
Negotiations of servers that have to wait for a key. A server that is told to wait pauses as long as
it is told, while its channel lies still, and asks again. Once it has an answer it goes on as it
would have if it had had it at once.
-/

namespace Parley

/-- A store that gives an answer for a user, once it has put it off so many seconds each time. -/
inductive Yields {κ : Type} [KeyStore κ] (user : String) (answer : KeyLookup) :
    κ → List Nat → Prop
  | atOnce {keys later : κ} (looked : KeyStore.lookup keys user = (answer, later)) :
      Yields user answer keys []
  | locked {keys later : κ} {seconds : Nat} {delays : List Nat}
      (looked : KeyStore.lookup keys user = (.locked seconds, later))
      (yields : Yields user answer later delays) : Yields user answer keys (seconds :: delays)

def Clock.woken (clock : Clock) (now : Nat) (delays : List Nat) : Nat :=
  delays.foldl (fun now seconds => clock.wake now (1000 * seconds)) now

theorem Clock.le_woken (clock : Clock) (now : Nat) (delays : List Nat) :
    now ≤ clock.woken now delays := by
  induction delays generalizing now with
  | nil => exact Nat.le_refl now
  | cons seconds delays ih => exact Nat.le_trans (clock.le_wake now _) (ih _)

/-- The phase in which a server has put off the hello that it asked for a key for. -/
def Phase.resting : Phase BuiltIn → Phase BuiltIn
  | .calling ⟨.inl handler, chain, .consume, blob⟩ =>
    .calling ⟨.inl ((handler.letIn .blob).puttingOff blob), chain, .consume, blob.taken⟩
  | .takingOver (.inl handler) false => .takingOver (.inl handler.resting) false
  | phase => phase

namespace Negotiation

open Lifecycle

/-! ## Servers that ask for a key -/

inductive Asks (user : String) : Phase BuiltIn → Prop
  | calling {handler : SharedKey} {chain : List String} {blob : Blob}
      (still : handler.lifecycle.Open .blob)
      (sought : (handler.letIn .blob).seeks? blob = some user) :
      Asks user (.calling ⟨.inl handler, chain, .consume, blob⟩)
  | takingOver {handler : SharedKey} (engaged : handler.lifecycle.Engaged .takeover)
      (consuming : handler.consuming = true)
      (sought : handler.seeks? handler.desk = some user)
      (neat : handler.desk.clear = Blob.blank takeoverCapacity) :
      Asks user (.takingOver (.inl handler) false)

variable {user protocol : String} {phase : Phase BuiltIn}

theorem asks_of_seeks (sound : Sound protocol phase) (hosting : Hosting phase)
    (seeks : phase.seeks? = some user) : Asks user phase := by
  cases hosting with
  | @calling loop role =>
      obtain ⟨handler | handler, chain, call, blob⟩ := loop
      · cases call with
        | produce => cases seeks
        | consume =>
            cases sound with
            | calling _ still =>
                have entered : handler.lifecycle.enter .blob = _ := Open.enter still
                rw [Phase.seeks?, BuiltIn.callSeeks?, entered] at seeks
                refine .calling still ?_
                exact (handler.seeks?_with rfl _ _).trans seeks
      · cases call <;> cases seeks
  | @takingOver handler fresh role neat =>
      cases fresh with
      | true => cases seeks
      | false =>
          rcases handler with handler | handler
          · cases sound with
            | takingOver _ _ engaged =>
                rw [Phase.seeks?, BuiltIn.roundSeeks?] at seeks
                split at seeks
                · rename_i consuming
                  exact .takingOver (engaged rfl) consuming seeks (neat rfl)
                · cases seeks
          · cases seeks
  | _ => cases seeks

theorem letIn_of_engaged {handler : SharedKey} {kind : ExchangeKind}
    (engaged : handler.lifecycle.Engaged kind) : handler.letIn kind = handler := by
  rw [SharedKey.letIn, ← engaged.exchange, ← engaged.stage]

theorem engaged_puttingOff (handler : SharedKey) (blob : Blob) :
    ((handler.letIn .blob).puttingOff blob).lifecycle.Engaged .blob := by
  rw [SharedKey.lifecycle_puttingOff]
  exact handler.engaged_letIn .blob

theorem Asks.resting (asks : Asks user phase) : Asks user phase.resting := by
  cases asks with
  | @calling handler chain blob still sought =>
      have engaged := engaged_puttingOff handler blob
      refine .calling engaged.open ?_
      rw [letIn_of_engaged engaged]
      exact SharedKey.seeks?_puttingOff sought (Blob.unread_taken blob)
  | @takingOver handler engaged consuming sought neat =>
      refine .takingOver ?_ ?_ (SharedKey.seeks?_resting sought) (Blob.clear_blank _)
      · rw [SharedKey.resting, SharedKey.lifecycle_puttingOff]
        exact engaged
      · exact (SharedKey.consuming_puttingOff handler handler.desk).trans consuming

theorem Asks.resting_resting (asks : Asks user phase) : phase.resting.resting = phase.resting := by
  cases asks with
  | @calling handler chain blob still sought =>
      have again := letIn_of_engaged (engaged_puttingOff handler blob)
      have same := SharedKey.puttingOff_puttingOff sought (Blob.unread_taken blob)
      simp only [Phase.resting, again, same]
      rfl
  | takingOver engaged consuming sought neat =>
      simp only [Phase.resting, SharedKey.resting_resting sought]

/-! ## Pauses -/

/--
A negotiation that pauses so many seconds, one after the other, while nothing comes over its
channel or goes.
-/
inductive Dozes {ω σ : Type} [HasFace σ] [Handler ω σ] (alarms : Alarms) :
    List Nat → Moment ω σ → Moment ω σ → Prop
  | awake {moment : Moment ω σ} : Dozes alarms [] moment moment
  | idle {delays : List Nat} {moment next last : Moment ω σ}
      (moves : moment.step alarms = .inl next)
      (shared : next.scene.shared = moment.scene.shared)
      (now : next.scene.now = moment.scene.now)
      (pauses : next.scene.pauses = moment.scene.pauses)
      (dozes : Dozes alarms delays next last) : Dozes alarms delays moment last
  | pause {seconds : Nat} {delays : List Nat} {moment next last : Moment ω σ}
      (moves : moment.step alarms = .inl next)
      (shared : next.scene.shared = moment.scene.shared)
      (now : next.scene.now = moment.negotiation.clock.wake moment.scene.now (1000 * seconds))
      (pauses : next.scene.pauses = moment.scene.pauses ++ [seconds])
      (dozes : Dozes alarms delays next last) : Dozes alarms (seconds :: delays) moment last

section

variable {ω σ : Type} [HasFace σ] [Handler ω σ] {alarms : Alarms} {delays more : List Nat}
  {moment next last : Moment ω σ}

theorem Dozes.append (dozes : Dozes alarms delays moment next)
    (thenOn : Dozes alarms more next last) : Dozes alarms (delays ++ more) moment last := by
  induction dozes with
  | awake => exact thenOn
  | idle moves shared now pauses _ ih => exact .idle moves shared now pauses (ih thenOn)
  | pause moves shared now pauses _ ih => exact .pause moves shared now pauses (ih thenOn)

theorem Dozes.leads (dozes : Dozes alarms delays moment last) :
    ∃ count, Leads alarms count moment last := by
  induction dozes with
  | awake => exact ⟨0, .here⟩
  | idle moves _ _ _ _ ih =>
      obtain ⟨count, leads⟩ := ih
      exact ⟨count + 1, .step moves leads⟩
  | pause moves _ _ _ _ ih =>
      obtain ⟨count, leads⟩ := ih
      exact ⟨count + 1, .step moves leads⟩

end

theorem perform_pause_early {σ : Type} {clock : Clock} {alarms : Alarms} (scene : Scene)
    {seconds : Nat} (early : clock.wake scene.now (1000 * seconds) < alarms.first)
    (phase : Phase σ) :
    perform clock alarms scene (.pause seconds phase) =
      .inl (phase, scene.later (clock.wake scene.now (1000 * seconds)) [seconds]) := by
  have wakes : max scene.now (min (clock.wake scene.now (1000 * seconds)) alarms.first) =
      clock.wake scene.now (1000 * seconds) := by
    have after := clock.le_wake scene.now (1000 * seconds)
    omega
  have silent := Alarms.rung_of_early early
  simp only [perform, Alarms.sleep, wakes, silent]
  rfl

variable {κ : Type} [KeyStore κ] {alarms : Alarms} {moment : Moment (Supplies κ) BuiltIn}
  {keys later : κ} {now seconds : Nat} {slept delays : List Nat} {answer : KeyLookup}

def Moment.rested (moment : Moment (Supplies κ) BuiltIn) : Moment (Supplies κ) BuiltIn :=
  moment.inPhase moment.negotiation.phase.resting

theorem turnOf_of_locked {handler : SharedKey} (chain : List String) {blob : Blob}
    (supplies : Supplies κ) (still : handler.lifecycle.Open .blob)
    (sought : (handler.letIn .blob).seeks? blob = some user)
    (locked : KeyStore.lookup supplies.keys user = (.locked seconds, later)) :
    turnOf ⟨.inl handler, chain, .consume, blob⟩ supplies =
      (⟨.ok (.wait seconds), .inl ((handler.letIn .blob).puttingOff blob), blob.taken,
        supplies.stock later⟩ : Turn (Supplies κ) BuiltIn) := by
  have called := SharedKey.call_of_open SharedKey.read blob supplies still
  rw [SharedKey.read_of_locked sought locked] at called
  exact congrArg (Handler.mapTurn Sum.inl) called

theorem dozes_calling {handler : SharedKey} {chain : List String} {blob : Blob}
    (shown : moment.negotiation.phase = .calling ⟨.inl handler, chain, .consume, blob⟩)
    (still : handler.lifecycle.Open .blob)
    (sought : (handler.letIn .blob).seeks? blob = some user)
    (locked : KeyStore.lookup keys user = (.locked seconds, later))
    (early : moment.negotiation.clock.wake now (1000 * seconds) < alarms.first) :
    Dozes alarms [seconds] (moment.later keys now slept)
      (moment.rested.later later (moment.negotiation.clock.wake now (1000 * seconds))
        (slept ++ [seconds])) := by
  let loop : BlobLoop BuiltIn :=
    ⟨.inl ((handler.letIn .blob).puttingOff blob), chain, .consume, blob.taken⟩
  let obeying := (moment.inPhase (.obeying loop (.wait seconds))).later later now slept
  have advanced : (moment.later keys now slept).negotiation.advance
      (moment.later keys now slept).surroundings =
      ⟨moment.negotiation.registry, moment.surroundings.stock later,
        goOn (.obeying loop (.wait seconds))⟩ := by
    have calling : (moment.later keys now slept).negotiation.phase = _ := shown
    have turned := turnOf_of_locked chain (moment.surroundings.stock keys) still sought locked
    rw [advance_calling _ calling]
    simp only [Moment.later, turned]
    rfl
  have calls : (moment.later keys now slept).step alarms = .inl obeying := Moment.moves advanced rfl
  have paused := perform_pause_early (moment.scene.later now slept) early (.calling loop)
  rw [Scene.later_later] at paused
  have rested : moment.rested = moment.inPhase (.calling loop) := by
    rw [Moment.rested, shown]
    rfl
  rw [rested]
  have sleeps : obeying.step alarms = _ := Moment.moves (advance_obeying _ rfl) paused
  exact .idle calls rfl rfl rfl (.pause sleeps rfl rfl (List.append_assoc _ _ _).symm .awake)

theorem advance_of_stretch (negotiation : Negotiation BuiltIn) {handler next : SharedKey}
    {fresh : Bool} {given : Option Answer} {supplies : Supplies κ}
    (stretch : Stretch (Supplies κ) SharedKey)
    (shown : negotiation.phase = .takingOver (.inl handler) fresh)
    (stretched : (if fresh then handler.takeOver supplies else handler.carryOn supplies) = stretch)
    (said : stretch.dialogue = .done (next, given)) :
    negotiation.advance supplies =
      ⟨negotiation.registry, stretch.surroundings, goOn (afterStretch (.inl next) given)⟩ := by
  have called : (if fresh then Handler.takeOver (.inl handler : BuiltIn) supplies
      else Handler.carryOn (.inl handler : BuiltIn) supplies : Stretch (Supplies κ) BuiltIn) =
      Handler.mapStretch Sum.inl stretch := by
    rw [← stretched]
    cases fresh <;> rfl
  rw [advance, shown]
  simp only [takeOver, called, Handler.mapStretch, said]
  rcases given with _ | _ | _ <;> rfl

theorem dozes_takingOver {handler : SharedKey}
    (shown : moment.negotiation.phase = .takingOver (.inl handler) false)
    (engaged : handler.lifecycle.Engaged .takeover) (consuming : handler.consuming = true)
    (sought : handler.seeks? handler.desk = some user)
    (locked : KeyStore.lookup keys user = (.locked seconds, later))
    (early : moment.negotiation.clock.wake now (1000 * seconds) < alarms.first) :
    Dozes alarms [seconds] (moment.later keys now slept)
      (moment.rested.later later (moment.negotiation.clock.wake now (1000 * seconds))
        (slept ++ [seconds])) := by
  let waiting : SharedKey := { handler.puttingOff handler.desk with desk := handler.desk.taken }
  let tookOver := (moment.inPhase (.tookOver (.inl waiting) (.wait seconds))).later later now slept
  let opening := (moment.inPhase (.takingOver (.inl waiting) true)).later later
    (moment.negotiation.clock.wake now (1000 * seconds)) (slept ++ [seconds])
  have carried : handler.carryOn (moment.surroundings.stock keys) = _ :=
    SharedKey.carryOn_of_locked consuming sought locked
  have breaks : (moment.later keys now slept).step alarms = .inl tookOver :=
    Moment.moves (advance_of_stretch (moment.later keys now slept).negotiation _ shown carried rfl)
      rfl
  have paused := perform_pause_early (moment.scene.later now slept) early
    (Phase.takingOver (.inl waiting : BuiltIn) true)
  rw [Scene.later_later] at paused
  have sleeps : tookOver.step alarms = .inl opening := Moment.moves rfl paused
  have rested : moment.rested = moment.inPhase (.takingOver (.inl handler.resting) false) := by
    rw [Moment.rested, shown]
    rfl
  have opens : opening.step alarms = .inl (moment.rested.later later
      (moment.negotiation.clock.wake now (1000 * seconds)) (slept ++ [seconds])) := by
    rw [rested]
    exact Moment.moves (advance_of_stretch opening.negotiation _ rfl
      (SharedKey.takeOver_resting engaged handler.desk.taken opening.surroundings) rfl) rfl
  -- One pause takes three steps: the takeover ends to wait, the driver sleeps, and another begins.
  exact .idle breaks rfl rfl rfl (.pause sleeps rfl rfl (List.append_assoc _ _ _).symm
    (.idle opens rfl rfl rfl .awake))

theorem Asks.dozes (asks : Asks user moment.negotiation.phase)
    (locked : KeyStore.lookup keys user = (.locked seconds, later))
    (early : moment.negotiation.clock.wake now (1000 * seconds) < alarms.first) :
    Dozes alarms [seconds] (moment.later keys now slept)
      (moment.rested.later later (moment.negotiation.clock.wake now (1000 * seconds))
        (slept ++ [seconds])) := by
  generalize shown : moment.negotiation.phase = phase at asks
  cases asks with
  | calling still sought => exact dozes_calling shown still sought locked early
  | takingOver engaged consuming sought _ =>
      exact dozes_takingOver shown engaged consuming sought locked early

omit [KeyStore κ] in
theorem Asks.rested (asks : Asks user moment.negotiation.phase) :
    moment.rested.rested = moment.rested := by
  have again := asks.resting_resting
  simp only [Moment.rested, Moment.inPhase, again]

theorem Asks.dozes_through (asks : Asks user moment.negotiation.phase) (slept : List Nat)
    (yields : Yields user answer keys delays)
    (inTime : moment.negotiation.clock.woken now delays < alarms.first) :
    ∃ last final rest, KeyStore.lookup last user = (answer, final) ∧
      (rest = moment ∨ rest = moment.rested) ∧
      Dozes alarms delays (moment.later keys now slept)
        (rest.later last (moment.negotiation.clock.woken now delays) (slept ++ delays)) := by
  -- A server that rests rests as before when it is put off again, so however many pauses there are
  -- it is found as it was or at rest.
  induction yields generalizing moment now slept with
  | @atOnce keys final looked =>
      refine ⟨keys, final, moment, looked, Or.inl rfl, ?_⟩
      rw [List.append_nil]
      exact .awake
  | @locked keys later seconds delays looked _ ih =>
      have early : moment.negotiation.clock.wake now (1000 * seconds) < alarms.first :=
        Nat.lt_of_le_of_lt (moment.negotiation.clock.le_woken _ delays) inTime
      have first : Dozes alarms [seconds] (moment.later keys now slept) _ := asks.dozes looked early
      have again : Asks user moment.rested.negotiation.phase := asks.resting
      obtain ⟨last, final, rest, found, rests, dozes⟩ := ih again (slept ++ [seconds]) inTime
      refine ⟨last, final, rest, found, Or.inr ?_, ?_⟩
      · rw [asks.rested] at rests
        exact rests.elim id id
      · rw [List.append_assoc] at dozes
        exact first.append dozes

/-! ## The answer -/

variable {negotiation : Negotiation BuiltIn} {supplies : Supplies κ} {next : Phase BuiltIn}
  {one two : κ} {handler : SharedKey} {chain : List String} {blob : Blob}

theorem past_turnOf (still : handler.lifecycle.Open .blob)
    (sought : (handler.letIn .blob).seeks? blob = some user)
    (looked : KeyStore.lookup supplies.keys user = (answer, later))
    (settled : ∀ seconds, answer ≠ .locked seconds) {mode : Mode}
    (answered : (turnOf (⟨.inl handler, chain, .consume, blob⟩ : BlobLoop BuiltIn)
      supplies).answer = .ok mode) :
    mode = .pendingData ∧ (turnOf (⟨.inl handler, chain, .consume, blob⟩ : BlobLoop BuiltIn)
      supplies).handler.PastHello := by
  have called := SharedKey.call_of_open SharedKey.read blob supplies still
  have turned : turnOf (⟨.inl handler, chain, .consume, blob⟩ : BlobLoop BuiltIn) supplies =
      Handler.mapTurn Sum.inl _ := congrArg (Handler.mapTurn Sum.inl) called
  rw [turned] at answered ⊢
  exact SharedKey.past_read sought looked settled answered

theorem past_carryOn {next : BuiltIn} {given : Option Answer} (consuming : handler.consuming = true)
    (sought : handler.seeks? handler.desk = some user)
    (looked : KeyStore.lookup supplies.keys user = (answer, later))
    (settled : ∀ seconds, answer ≠ .locked seconds)
    (leads : (Handler.carryOn (.inl handler : BuiltIn) supplies).dialogue.Leads (next, given)) :
    (∃ fault, given = some (.error fault)) ∨ given = none ∧ next.PastHello := by
  obtain ⟨⟨inner, answer⟩, talked, last⟩ := Dialogue.leads_bind_iff.mp leads
  cases Dialogue.leads_done_iff.mp last
  have carried : (Handler.carryOn handler supplies).dialogue = _ :=
    (SharedKey.carryOn_of_settled consuming sought looked settled).2
  rw [carried] at talked
  rcases worked : (handler.read handler.desk supplies).answer with fault | mode
  · rw [SharedKey.answering_of_fault worked] at talked
    cases Dialogue.leads_done_iff.mp talked
    exact Or.inl ⟨fault, rfl⟩
  · rw [SharedKey.answering_of_mode worked] at talked
    cases Dialogue.leads_done_iff.mp talked
    exact Or.inr ⟨rfl, (SharedKey.past_read sought looked settled worked).2⟩

theorem Asks.onward (asks : Asks user negotiation.phase)
    (sound : Sound negotiation.protocol negotiation.phase) (hosting : Hosting negotiation.phase)
    (looked : KeyStore.lookup supplies.keys user = (answer, later))
    (settled : ∀ seconds, answer ≠ .locked seconds)
    (leads : (negotiation.advance supplies).action.Leads next) : Hosting next ∧ Greeted next := by
  generalize shown : negotiation.phase = phase at asks sound hosting
  cases asks with
  | @calling handler chain blob still sought =>
      rw [advance_calling supplies shown] at leads
      let loop : BlobLoop BuiltIn := ⟨.inl handler, chain, .consume, blob⟩
      have past {mode : Mode} (answered : (turnOf loop supplies).answer = .ok mode) :=
        past_turnOf still sought looked settled answered
      constructor
      · cases sound with
        | calling holding _ =>
            cases hosting with
            | calling role =>
                refine hosting_calling holding still role (fun seconds answered => ?_) leads
                cases (past answered).1
      · cases closed_of_leads leads with
        | broken _ => exact .over
        | unsent _ => exact .over
        | obeying answered => exact .obeying (past answered).2
  | @takingOver handler engaged consuming sought neat =>
      rw [advance, shown] at leads
      have past {after : BuiltIn} {given : Option Answer}
          (talked : (Handler.carryOn _ supplies).dialogue.Leads (after, given)) :=
        past_carryOn consuming sought looked settled talked
      constructor
      · cases sound with
        | takingOver holding still _ =>
            cases hosting with
            | takingOver role _ =>
                refine hosting_takingOver holding still (fun _ => engaged) role (fun _ => neat)
                  (fun _ after given talked seconds waits => ?_) leads
                rcases past talked with ⟨fault, broken⟩ | ⟨nothing, _⟩
                · cases broken.symm.trans waits
                · cases nothing.symm.trans waits
      · obtain ⟨after, given, talked, rfl⟩ := stretch_of_leads leads
        rcases past talked with ⟨fault, rfl⟩ | ⟨rfl, answered⟩
        · exact .over
        · exact .takingOver answered

theorem turnOf_anew (still : handler.lifecycle.Open .blob)
    (sought : (handler.letIn .blob).seeks? blob = some user)
    (first : KeyStore.lookup supplies.keys user = (answer, one))
    (second : KeyStore.lookup keys user = (answer, two)) :
    turnOf (⟨.inl handler, chain, .consume, blob⟩ : BlobLoop BuiltIn) (supplies.stock keys) =
      (turnOf ⟨.inl handler, chain, .consume, blob⟩ supplies).stock two := by
  have called := SharedKey.call_of_open SharedKey.read blob supplies still
  have again := SharedKey.call_of_open SharedKey.read blob (supplies.stock keys) still
  have read : (handler.letIn .blob).read blob (supplies.stock keys) =
      ((handler.letIn .blob).read blob supplies).stock two :=
    SharedKey.read_anew sought rfl first second
  rw [read] at again
  have same : handler.call SharedKey.read blob (supplies.stock keys) =
      (handler.call SharedKey.read blob supplies).stock two := by
    rw [again, called]
    rfl
  exact congrArg (Handler.mapTurn Sum.inl) same

theorem turnOf_resting (still : handler.lifecycle.Open .blob)
    (sought : (handler.letIn .blob).seeks? blob = some user)
    (first : KeyStore.lookup supplies.keys user = (answer, one))
    (second : KeyStore.lookup keys user = (answer, two)) :
    turnOf (⟨.inl ((handler.letIn .blob).puttingOff blob), chain, .consume, blob.taken⟩ :
        BlobLoop BuiltIn) (supplies.stock keys) =
      (turnOf ⟨.inl handler, chain, .consume, blob⟩ supplies).stock two := by
  have engaged := engaged_puttingOff handler blob
  have called := SharedKey.call_of_open SharedKey.read blob supplies still
  have again := SharedKey.call_of_open SharedKey.read blob.taken (supplies.stock keys) engaged.open
  have read : ((handler.letIn .blob).puttingOff blob).read blob.taken (supplies.stock keys) =
      { ((handler.letIn .blob).read blob supplies).stock two with blob := blob.taken.taken } :=
    SharedKey.read_puttingOff sought (Blob.unread_taken blob) rfl first second
  have taken : ((handler.letIn .blob).read blob supplies).blob = blob.taken :=
    SharedKey.blob_read _ blob supplies
  rw [letIn_of_engaged engaged, read] at again
  have same : ((handler.letIn .blob).puttingOff blob).call SharedKey.read blob.taken
      (supplies.stock keys) = (handler.call SharedKey.read blob supplies).stock two := by
    rw [again, called]
    simp only [Turn.stock, taken]
    rfl
  exact congrArg (Handler.mapTurn Sum.inl) same

theorem Asks.advance_anew (asks : Asks user negotiation.phase)
    (first : KeyStore.lookup supplies.keys user = (answer, one))
    (second : KeyStore.lookup keys user = (answer, two)) :
    negotiation.advance (supplies.stock keys) = (negotiation.advance supplies).stock two := by
  generalize shown : negotiation.phase = phase at asks
  cases asks with
  | calling still sought =>
      rw [advance_calling _ shown, advance_calling _ shown, turnOf_anew still sought first second]
      rfl
  | @takingOver handler engaged consuming sought neat =>
      have same : handler.carryOn (supplies.stock keys) = (handler.carryOn supplies).stock two :=
        SharedKey.carryOn_anew consuming sought rfl first second
      have carried : Handler.carryOn (.inl handler : BuiltIn) (supplies.stock keys) =
          (Handler.carryOn (.inl handler : BuiltIn) supplies).stock two :=
        congrArg (Handler.mapStretch Sum.inl) same
      rw [advance, advance, shown]
      simp only [takeOver, carried]
      rfl

/--
Once a hello has been put off, the step that asks again comes to what the first would have come to,
but for what lies on the desk of a takeover that is about to write.
-/
theorem Asks.advance_resting (asks : Asks user negotiation.phase)
    (first : KeyStore.lookup supplies.keys user = (answer, one))
    (second : KeyStore.lookup keys user = (answer, two))
    (settled : ∀ seconds, answer ≠ .locked seconds) :
    { negotiation with phase := negotiation.phase.resting }.advance (supplies.stock keys) =
        (negotiation.advance supplies).stock two ∨
      ∃ (next : SharedKey) (desk : Blob) (left : Supplies κ), next.consuming = false ∧
        desk.clear = next.desk.clear ∧
        negotiation.advance supplies =
          ⟨negotiation.registry, left, goOn (.takingOver (.inl next) false)⟩ ∧
        { negotiation with phase := negotiation.phase.resting }.advance (supplies.stock keys) =
          ⟨negotiation.registry, left.stock two,
            goOn (.takingOver (.inl { next with desk }) false)⟩ := by
  generalize shown : negotiation.phase = phase at asks
  cases asks with
  | calling still sought =>
      refine Or.inl ?_
      rw [advance_calling _ shown, advance_calling _ rfl, turnOf_resting still sought first second]
      rfl
  | @takingOver handler engaged consuming sought neat =>
      obtain ⟨kept, said⟩ := SharedKey.carryOn_resting supplies (supplies.stock keys) consuming
        sought rfl first second settled
      let resting : Negotiation BuiltIn :=
        { negotiation with phase := .takingOver (.inl handler.resting) false }
      have advanced {next : SharedKey} {given : Option Answer}
          (said : (handler.carryOn supplies).dialogue = .done (next, given)) :
          negotiation.advance supplies = _ :=
        advance_of_stretch _ (handler.carryOn supplies) shown rfl said
      have rested {next : SharedKey} {given : Option Answer}
          (said : (handler.resting.carryOn (supplies.stock keys)).dialogue = .done (next, given)) :
          resting.advance (supplies.stock keys) = _ :=
        advance_of_stretch _ (handler.resting.carryOn (supplies.stock keys)) rfl rfl said
      rcases said with ⟨fault, last, rest, once, again⟩ | ⟨next, once, again, idle, _, desk⟩
      · refine Or.inl ((rested again).trans ?_)
        rw [advanced once, kept]
        rfl
      · refine Or.inr ⟨next, Blob.blank takeoverCapacity, (handler.carryOn supplies).surroundings,
          idle, ?_, advanced once, (rested again).trans ?_⟩
        · rw [desk, Blob.clear_taken, neat, Blob.clear_blank]
        · rw [kept]
          rfl

theorem step_redesk {next : SharedKey} {desk : Blob}
    (shown : moment.negotiation.phase = .takingOver (.inl next) false)
    (idle : next.consuming = false) (clear : desk.clear = next.desk.clear) :
    (moment.inPhase (.takingOver (.inl { next with desk }) false)).step alarms =
      moment.step alarms := by
  have carried : Handler.carryOn (.inl { next with desk } : BuiltIn) moment.surroundings =
      Handler.carryOn (.inl next : BuiltIn) moment.surroundings :=
    congrArg (Handler.mapStretch Sum.inl) (SharedKey.carryOn_redesk idle clear moment.surroundings)
  have advanced : { moment.negotiation with
      phase := .takingOver (.inl { next with desk }) false }.advance moment.surroundings =
      moment.negotiation.advance moment.surroundings := by
    rw [advance, advance, shown]
    simp only [takeOver, carried]
    rfl
  rw [Moment.step, Moment.step]
  simp only [Moment.inPhase, advanced]

theorem Asks.matches (asks : Asks user moment.negotiation.phase) (hosts : Hosts alarms moment)
    (first : KeyStore.lookup moment.surroundings.keys user = (answer, one))
    (second : KeyStore.lookup keys user = (answer, two))
    (settled : ∀ seconds, answer ≠ .locked seconds) (late : now < alarms.first)
    {rest : Moment (Supplies κ) BuiltIn} (rests : rest = moment ∨ rest = moment.rested)
    (bound : Nat) :
    Option.Rel (Matches slept) ((rest.later keys now slept).end? alarms bound)
      (moment.end? alarms bound) := by
  have onward {next : Moment (Supplies κ) BuiltIn} (moves : moment.step alarms = .inl next)
      (bound : Nat) : Option.Rel (Matches slept) ((next.later two now slept).end? alarms bound)
        (next.end? alarms bound) := by
    obtain ⟨hosting, greeted⟩ := asks.onward hosts.sound hosts.hosting first settled
      (Moment.leads_of_step moves)
    have onward := hosts.onward moves hosting
    exact onward.matches (onward.never greeted) late bound
  have strides {phase : Phase BuiltIn}
      (same : { moment.negotiation with phase }.advance (moment.surroundings.stock keys) =
        (moment.negotiation.advance moment.surroundings).stock two) :
      Strides alarms moment (moment.inPhase phase) keys two now slept :=
    strides_later phase same (action_ne_pause (κ := κ) hosts.hosting) hosts.early late
  -- Only the step that asks looks at the keys, and what follows it never asks again.
  cases bound with
  | zero => exact .none
  | succ bound =>
      rcases rests with rfl | rfl
      · exact (strides (asks.advance_anew first second)).matches fun _ moves => onward moves bound
      · rcases asks.advance_resting first second settled with
          same | ⟨next, desk, left, idle, clear, advanced, rested⟩
        · exact (strides same).matches fun _ moves => onward moves bound
        · let writing : Moment (Supplies κ) BuiltIn :=
            ⟨{ moment.negotiation with phase := .takingOver (.inl next) false }, left, moment.scene⟩
          have moves : moment.step alarms = .inl writing := Moment.moves advanced rfl
          have asked : (moment.rested.later keys now slept).negotiation.advance
              (moment.rested.later keys now slept).surroundings = _ := rested
          have again : (moment.rested.later keys now slept).step alarms =
              .inl ((writing.later two now slept).inPhase
                (.takingOver (.inl { next with desk }) false)) := Moment.moves asked rfl
          rw [Moment.end?_of_moves again, Moment.end?_of_moves moves,
            Moment.end?_congr (step_redesk rfl idle clear)]
          exact onward moves bound

/-! ## Whole negotiations -/

/--
The pauses of a negotiation for the sake of a key: those of a store that puts off its answer, or none
if the negotiation does not ask for a key.
-/
inductive Waits (alarms : Alarms) (delays : List Nat) (moment : Moment (Supplies κ) BuiltIn) :
    List Nat → Prop
  | unasked (never : ∀ bound, moment.asks? alarms bound = none) : Waits alarms delays moment []
  | dozes {count : Nat} {before after : Moment (Supplies κ) BuiltIn} {user : String}
      (leads : Leads alarms count moment before)
      (seeks : before.negotiation.phase.seeks? = some user)
      (dozes : Dozes alarms delays before after) : Waits alarms delays moment delays

theorem matches_of_leads {ω σ : Type} [HasFace σ] [Handler ω σ]
    {related : Ended ω σ → Ended ω σ → Prop} {count more : Nat}
    {soon before late after : Moment ω σ} (leads : Leads alarms count soon before)
    (others : Leads alarms (count + more) late after)
    (same : ∀ bound, Option.Rel related (after.end? alarms bound) (before.end? alarms bound))
    (bound : Nat) :
    Option.Rel related (late.end? alarms (bound + more)) (soon.end? alarms bound) := by
  rcases Nat.lt_or_ge bound count with short | enough
  · rw [leads.end?_of_lt short, others.end?_of_lt (Nat.add_lt_add_right short more)]
    exact .none
  · obtain ⟨less, rfl⟩ := Nat.exists_eq_add_of_le enough
    rw [Nat.add_right_comm, leads.end?_add, others.end?_add]
    exact same less

/--
Waiting for a key changes nothing else. Let one store give an answer at once for the user whose key
a server asks for first, and let another one put it off so many seconds each time. Before any alarm
rings the server pauses just as long, one pause after the other, while nothing comes over its channel
or goes. Both negotiations then come to the same result, have drawn the same nonces and have sent
and taken the same over their channels; with the other store there are only more pauses and phases.
-/
theorem waiting_changes_nothing_else {cancelAt : Option Nat} {nonces : NonceSupply}
    {slow prompt : κ} {scene : Scene} (furnished : negotiation.registry.Furnished)
    (opening : negotiation.phase = .opening) (serves : negotiation.start.Serves)
    (settled : ∀ seconds, answer ≠ .locked seconds)
    (inTime : negotiation.clock.woken scene.now delays <
      (Alarms.starting cancelAt negotiation.settings scene.now).first)
    (yields : ∀ bound user,
      Moment.asks? (Alarms.starting cancelAt negotiation.settings scene.now) bound
        ⟨negotiation, ⟨nonces, prompt⟩, scene⟩ = some user →
      Yields user answer prompt [] ∧ Yields user answer slow delays) :
    ∃ slept more,
      Waits (Alarms.starting cancelAt negotiation.settings scene.now) delays
        ⟨negotiation, ⟨nonces, slow⟩, scene⟩ slept ∧
      ∀ bound, Option.Rel (Matches slept)
        (negotiation.run (bound + more) cancelAt ⟨nonces, slow⟩ scene)
        (negotiation.run bound cancelAt ⟨nonces, prompt⟩ scene) := by
  have early := Nat.lt_of_le_of_lt (negotiation.clock.le_woken scene.now delays) inTime
  simp only [run_of_early early]
  generalize Alarms.starting cancelAt negotiation.settings scene.now = alarms at *
  let soon : Moment (Supplies κ) BuiltIn := ⟨negotiation, ⟨nonces, prompt⟩, scene⟩
  have lateEq : (⟨negotiation, ⟨nonces, slow⟩, scene⟩ : Moment (Supplies κ) BuiltIn) =
      soon.later slow scene.now [] := by
    rw [Moment.later, Scene.later_now]
    rfl
  have hosts : Hosts alarms soon := by
    refine ⟨furnished, ?_, serves, ?_, early⟩
    · rw [opening]
      exact .opening
    · rw [opening]
      exact .opening
  rw [lateEq]
  by_cases never : ∀ bound, soon.asks? alarms bound = none
  · refine ⟨[], 0, .unasked fun bound => ?_, hosts.matches never early⟩
    rw [hosts.asks?_later early]
    exact never bound
  · obtain ⟨bound, asked⟩ := Classical.not_forall.mp never
    obtain ⟨user, asks⟩ := Option.ne_none_iff_exists'.mp asked
    obtain ⟨atOnce, locked⟩ := yields bound user asks
    obtain ⟨count, before, leads, others, seeks, held, kept, _⟩ :=
      hosts.asked slow [] early asks
    have asking := asks_of_seeks held.sound held.hosting seeks
    have clock : before.negotiation.clock = negotiation.clock := leads.clock
    rw [← clock] at inTime
    obtain ⟨last, final, rest, found, rests, dozes⟩ :=
      asking.dozes_through [] locked inTime
    obtain ⟨more, dozing⟩ := dozes.leads
    refine ⟨delays, more, .dozes others seeks dozes, ?_⟩
    cases atOnce with
    | atOnce looked =>
        have first := (congrArg (KeyStore.lookup · user) kept).trans looked
        exact matches_of_leads leads (others.trans dozing)
          (asking.matches held first found settled inTime rests)

def host : Negotiation BuiltIn :=
  { protocol := "p9sk1"
    start := .live none .server
    route := .direct
    settings := Settings.default
    registry := Registry.standard }

def visited : Scene :=
  let hello :=
    (Message.hello "p9sk1" "alice" (List.replicate nonceLength 7)).encode.toOption.getD []
  { shared := { channel := { reads := [.data (Frame.encode hello), .silence] } } }

def lockedKeys : MemoryKeys :=
  MemoryKeys.lock (MemoryKeys.insert {} "alice" ⟨[1, 2, 3]⟩) "alice"
    { seconds := 2, remaining := some 2 }

theorem waiting_changes_nothing_else_host :
    ∃ slept more,
      Waits (Alarms.starting none Settings.default 0) [2, 2]
        ⟨host, ⟨.counting, lockedKeys⟩, visited⟩ slept ∧
      ∀ bound, Option.Rel (Matches slept)
        (host.run (bound + more) none ⟨.counting, lockedKeys⟩ visited)
        (host.run bound none ⟨.counting, lockedKeys.unlock "alice"⟩ visited) := by
  have asks : Moment.asks? (Alarms.starting none Settings.default 0) 9
      ⟨host, ⟨.counting, lockedKeys.unlock "alice"⟩, visited⟩ = some "alice" := by
    decide +kernel
  have prompt : Yields "alice" (.found ⟨[1, 2, 3]⟩) (lockedKeys.unlock "alice") [] := .atOnce rfl
  have slow : Yields "alice" (.found ⟨[1, 2, 3]⟩) lockedKeys [2, 2] :=
    .locked rfl (.locked rfl (.atOnce rfl))
  have furnished : host.registry.Furnished := Registry.furnished_standard
  have serves : host.start.Serves := rfl
  have settled (seconds : Nat) : KeyLookup.found ⟨[1, 2, 3]⟩ ≠ .locked seconds := nofun
  have inTime : host.clock.woken visited.now [2, 2] <
      (Alarms.starting none host.settings visited.now).first := by
    decide
  refine waiting_changes_nothing_else furnished rfl serves settled inTime ?_
  intro bound user found
  obtain rfl := Moment.asks?_unique asks found
  exact ⟨prompt, slow⟩

end Negotiation

end Parley
