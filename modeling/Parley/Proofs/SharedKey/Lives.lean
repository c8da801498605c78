import Parley.Proofs.SharedKey.Authentication
import Parley.Proofs.SharedKey.Standing
import Parley.Proofs.SharedKey.Twins
import Parley.Proofs.SharedKey.Undisturbed

/-!
Lives of handlers. Whatever is done with a handler and whatever it hears, its deeds tell where it
stands; so a client shows its proof only to a server that has shown its own.
-/

namespace Parley.SharedKey

open Lifecycle

variable {κ : Type} {start handler next : SharedKey} {log more : List Deed} {answer : Answer}

theorem Standing.entered {lifecycle : Lifecycle} {answer : Option Answer}
    (standing : Standing start handler log) (entry : Entry handler.lifecycle lifecycle answer) :
    Standing start { handler with lifecycle } log := by
  cases entry with
  | unbound _ => exact standing
  | mixed face hidden =>
      subst hidden
      exact standing.dress
        { handler.lifecycle with face := { handler.lifecycle.face with credential := none } }
        handler.inbox handler.outbox handler.desk handler.consuming rfl (Or.inr rfl) (Or.inl rfl)
  | repeated kind _ =>
      exact standing.dress { handler.lifecycle with exchange := some kind } handler.inbox
        handler.outbox handler.desk handler.consuming rfl (Or.inl rfl) (Or.inl rfl)
  | opened kind stage =>
      exact standing.dress { handler.lifecycle with exchange := some kind, stage := .exchanging }
        handler.inbox handler.outbox handler.desk handler.consuming rfl (Or.inl rfl) (Or.inr stage)

variable [KeyStore κ] {supplies : Supplies κ}

omit [KeyStore κ] in
theorem Standing.called {work : SharedKey → Blob → Supplies κ → Turn (Supplies κ) SharedKey}
    {blob : Blob} (taken given : Blob → Bytes) (standing : Standing start handler log)
    (unchanged : taken blob = [] ∧ given blob = [])
    (worked : ∀ opened, Standing start opened log → opened.lifecycle.stage = .exchanging →
      Standing start
        ((work opened blob supplies).handler.settle (work opened blob supplies).answer)
        (log ++ deeds opened (work opened blob supplies).handler supplies
          (work opened blob supplies).surroundings (taken (work opened blob supplies).blob)
          (given (work opened blob supplies).blob))) :
    Standing start (handler.call work blob supplies).handler
      (log ++ deeds handler (handler.call work blob supplies).handler supplies
        (handler.call work blob supplies).surroundings
        (taken (handler.call work blob supplies).blob)
        (given (handler.call work blob supplies).blob)) := by
  rw [call]
  rcases entered : handler.lifecycle.enter .blob with ⟨lifecycle, _ | answer⟩
  · have entry := entry_enter entered
    exact worked { handler with lifecycle } (standing.entered entry) entry.exchanging.1
  · dsimp only
    rw [unchanged.1, unchanged.2, deeds_entered, List.append_nil]
    exact standing.entered (entry_enter entered)

inductive Outgrowth (handler : SharedKey) (mode : Mode) : SharedKey → Option Answer → Prop
  | onward (goes : mode.goesOn = true) (desk : Blob) {consuming : Bool}
      (way : consuming = true → mode = .needData ∨ mode = .continue ∧ handler.consuming = true) :
      Outgrowth handler mode { handler with desk, consuming } none
  | ended (stops : mode.goesOn = false) : Outgrowth handler mode handler (some (.ok mode))
  | broken {fault : Fault} (fails : Frame.Fails fault) :
      Outgrowth handler mode (handler.settle (.error fault)) (some (.error fault))

omit [KeyStore κ] in
theorem outgrowth_obey {mode : Mode} {answer : Option Answer} (supported : mode ≠ .noMoreData)
    (leads : (handler.obey mode).Leads (next, answer)) : Outgrowth handler mode next answer := by
  cases mode with
  | needData =>
      obtain ⟨frame, received, later⟩ := Dialogue.leads_bind_iff.mp leads
      rcases frame with fault | frame
      · cases Dialogue.leads_done_iff.mp later
        exact .broken (.receiving received)
      · cases Dialogue.leads_done_iff.mp later
        exact .onward rfl (handler.desk.load frame) fun _ => Or.inl rfl
  | pendingData =>
      cases Dialogue.leads_done_iff.mp leads
      exact .onward rfl handler.desk nofun
  | «continue» =>
      cases Dialogue.leads_done_iff.mp leads
      exact .onward rfl handler.desk fun consuming => Or.inr ⟨rfl, consuming⟩
  | noMoreData => exact absurd rfl supported
  | _ =>
      cases Dialogue.leads_done_iff.mp leads
      exact .ended rfl

theorem outgrowth_carryOn {stretch : Stretch (Supplies κ) SharedKey}
    (begun : handler.carryOn supplies = stretch) :
    stretch.handler =
        { (handler.round supplies).handler with desk := (handler.round supplies).blob } ∧
      stretch.surroundings = (handler.round supplies).surroundings ∧
      match (handler.round supplies).answer with
      | .error fault =>
          stretch.dialogue =
            .done (stretch.handler.settle (.error fault), some (.error fault))
      | .ok mode => ∀ next answer, stretch.dialogue.Leads (next, answer) →
          Outgrowth stretch.handler mode next answer := by
  subst begun
  have worked := worked_round handler supplies
  refine ⟨rfl, rfl, ?_⟩
  rw [carryOn_eq]
  simp only [closeRound]
  rcases answered : (handler.round supplies).answer with fault | mode
  · rfl
  · intro next answer leads
    have supported : mode ≠ .noMoreData := by
      rintro rfl
      rw [answered] at worked
      rcases worked.leaves with ⟨_, _, more, _, _⟩ | ⟨final, _, _⟩
      · exact more rfl
      · cases final
    dsimp only at leads
    split at leads
    · obtain ⟨sent, talked, later⟩ := Dialogue.leads_bind_iff.mp leads
      rcases sent with fault | _
      · cases Dialogue.leads_done_iff.mp later
        exact .broken (.sending talked)
      · exact outgrowth_obey supported later
    · exact outgrowth_obey supported leads

inductive Rounds (handler : SharedKey) (supplies : Supplies κ) : SharedKey → Option Answer → Prop
  | broken {fault : Fault} (answered : (handler.round supplies).answer = .error fault) :
      Rounds handler supplies
        (({ (handler.round supplies).handler with
          desk := (handler.round supplies).blob } : SharedKey).settle (.error fault))
        (some (.error fault))
  | worked {mode : Mode} {next : SharedKey} {given : Option Answer}
      (answered : (handler.round supplies).answer = .ok mode)
      (outgrowth : Outgrowth
        { (handler.round supplies).handler with desk := (handler.round supplies).blob }
        mode next given) :
      Rounds handler supplies next given

theorem rounds_carryOn {given : Option Answer}
    (leads : (handler.carryOn supplies).dialogue.Leads (next, given)) :
    Rounds handler supplies next given := by
  obtain ⟨same, _, ends⟩ := outgrowth_carryOn (rfl : handler.carryOn supplies = _)
  rcases answered : (handler.round supplies).answer with fault | mode
  · rw [answered] at ends
    dsimp only at ends
    rw [ends, same] at leads
    cases Dialogue.leads_done_iff.mp leads
    exact .broken answered
  · rw [answered] at ends
    have outgrowth := ends next given leads
    rw [same] at outgrowth
    exact .worked answered outgrowth

theorem Standing.round (standing : Standing start handler log)
    (exchanging : handler.lifecycle.stage = .exchanging)
    {stretch : Stretch (Supplies κ) SharedKey} (begun : handler.carryOn supplies = stretch) :
    ∃ work : Answer,
      Standing start (stretch.handler.settle work)
        (log ++ deeds handler stretch.handler supplies stretch.surroundings handler.inHand
          (handler.offered stretch.handler)) ∧
      Worked handler.lifecycle stretch.handler.lifecycle work ∧
      match work with
      | .error fault =>
          stretch.dialogue =
            .done (stretch.handler.settle (.error fault), some (.error fault))
      | .ok mode => ∀ next answer, stretch.dialogue.Leads (next, answer) →
          Outgrowth stretch.handler mode next answer := by
  obtain ⟨same, surroundings, ends⟩ := outgrowth_carryOn begun
  refine ⟨(handler.round supplies).answer, ?_, ?_, ends⟩
  · rw [same, surroundings, inHand, offered]
    rcases consuming : handler.consuming with _ | _
    · have turn : handler.round supplies = handler.write handler.desk.clear supplies := by
        rw [SharedKey.round, consuming]
        rfl
      rw [turn]
      exact (standing.written exchanging (written_write handler handler.desk.clear supplies)).dress
        _ _ _ _ _ rfl (Or.inl rfl) (Or.inl rfl)
    · have turn : handler.round supplies = handler.read handler.desk supplies := by
        rw [SharedKey.round, consuming]
        rfl
      rw [turn]
      exact (standing.listened exchanging (listening_read handler handler.desk supplies)).dress
        _ _ _ _ _ rfl (Or.inl rfl) (Or.inl rfl)
  · rw [same]
    exact worked_round handler supplies

omit [KeyStore κ] in
theorem Standing.settled {mode : Mode} {after : Option Answer}
    (standing : Standing start handler log) (outgrowth : Outgrowth handler mode next after) :
    Standing start next log := by
  cases outgrowth with
  | @onward _ desk consuming _ =>
      exact standing.dress handler.lifecycle handler.inbox handler.outbox desk consuming rfl
        (Or.inl rfl) (Or.inl rfl)
  | ended _ => exact standing
  | @broken fault _ => exact standing.fault fault

theorem Standing.move {now next : Posture} (standing : Standing start now.handler log)
    (engaged : now.engaged = true → now.handler.lifecycle.stage = .exchanging)
    (move : Move κ now more next) :
    Standing start next.handler (log ++ more) ∧
      (next.engaged = true → next.handler.lifecycle.stage = .exchanging) := by
  cases move with
  | @produce handler supplies blob turn called =>
      subst called
      refine ⟨?_, by simp⟩
      exact standing.called (fun _ => []) blob.gained ⟨rfl, Blob.gained_self blob⟩
        fun opened stands exchanging =>
          stands.written exchanging (written_write opened blob supplies)
  | @consume handler supplies blob turn called =>
      subst called
      refine ⟨?_, by simp⟩
      refine standing.called blob.given (fun _ => []) ⟨by simp [Blob.given], rfl⟩
        fun opened stands exchanging => ?_
      rw [blob_read, Inbox.given_absorb]
      exact stands.listened exchanging (listening_read opened blob supplies)
  | @takeOver handler next supplies answer stretch begun leads =>
      have opening : Handler.takeOver handler supplies = handler.takeOver supplies := rfl
      rw [opening, SharedKey.takeOver] at begun
      rcases entered : handler.lifecycle.enter .takeover with ⟨lifecycle, _ | given⟩
      · have entry := entry_enter entered
        have stands := (standing.entered entry).dress lifecycle handler.inbox handler.outbox
          (Blob.blank takeoverCapacity) handler.consuming rfl (Or.inl rfl) (Or.inl rfl)
        simp only [entered] at begun
        subst begun
        cases Dialogue.leads_done_iff.mp leads
        rw [deeds_entered, List.append_nil]
        exact ⟨stands, fun _ => entry.exchanging.1⟩
      · simp only [entered] at begun
        subst begun
        cases Dialogue.leads_done_iff.mp leads
        rw [deeds_entered, List.append_nil]
        exact ⟨standing.entered (entry_enter entered), by simp⟩
  | @carryOn handler next supplies answer stretch begun leads =>
      obtain ⟨work, stands, worked, ends⟩ := standing.round (engaged rfl) begun
      rcases work with fault | mode
      · rw [ends] at leads
        cases Dialogue.leads_done_iff.mp leads
        exact ⟨stands, by simp⟩
      · have outgrowth := ends next answer leads
        refine ⟨stands.settled outgrowth, ?_⟩
        cases outgrowth with
        | onward goes desk _ =>
            have going : mode.isFinal = false := by cases mode <;> first | rfl | cases goes
            intro _
            exact (worked.kept_of_going going).1.trans (engaged rfl)
        | ended _ => simp
        | broken _ => simp
  | @givenUp handler supplies stretch begun waits =>
      obtain ⟨work, stands, _, ends⟩ := standing.round (engaged rfl) begun
      refine ⟨?_, by simp⟩
      rcases work with fault | mode
      · exact absurd ends (waits _)
      · exact stands

theorem Standing.life {now : Posture} (standing : Standing start start [])
    (life : Life κ start log now) :
    Standing start now.handler log ∧
      (now.engaged = true → now.handler.lifecycle.stage = .exchanging) := by
  induction life with
  | begin => exact ⟨standing, by simp⟩
  | move _ move ih => exact ih.1.move ih.2 move

theorem standing_init (unused : Unused handler) (identity : Option Identity) (role : Role)
    (supplies : Supplies κ) :
    Standing (handler.init identity role supplies).handler
      (handler.init identity role supplies).handler [] := by
  have refused (reason : String) (supplies : Supplies κ) :
      Standing (handler.refuse reason supplies).handler (handler.refuse reason supplies).handler
        [] := standing_of_idle rfl (.unbound rfl) (by simp)
  simp only [init]
  split
  · exact refused _ _
  · split
    · exact refused _ _
    · rw [initClient]
      split
      · refine .underway ⟨rfl, rfl, rfl, rfl, Or.inl unused.settlement⟩ ?_
        dsimp only
        rw [unused.step]
        exact .opening unused.deferred ⟨rfl, rfl⟩ ⟨rfl, rfl⟩
      · exact refused _ _
      · exact refused _ _
    · refine .underway ⟨rfl, rfl, rfl, rfl, Or.inl unused.settlement⟩ ?_
      dsimp only [initServer]
      rw [unused.step]
      exact .resting unused.deferred

theorem standing_initialises {variant : Variant} {supplies began : Supplies κ}
    (initialised : Initialises (fresh variant) supplies start began) : Standing start start [] := by
  cases initialised with
  | live identity role => exact standing_init ⟨rfl, rfl, rfl, rfl⟩ identity role supplies
  | declared attributes =>
      have unfolded : Handler.initFrom (fresh variant) attributes supplies =
          (fresh variant).initFrom attributes supplies := rfl
      rw [unfolded, initFrom]
      split
      · exact standing_of_idle rfl (.unbound rfl) (by simp)
      · rename_i identity role key _
        have unused : Unused { fresh variant with ownKey := key.or (fresh variant).ownKey } :=
          ⟨rfl, rfl, rfl, rfl⟩
        exact standing_init unused (some identity) role supplies

theorem variant_init (handler : SharedKey) (identity : Option Identity) (role : Role)
    (supplies : Supplies κ) :
    (handler.init identity role supplies).handler.variant = handler.variant := by
  simp only [init]
  split
  · rfl
  · split
    · rfl
    · rw [initClient]
      split <;> rfl
    · rfl

theorem variant_initialises {variant : Variant} {supplies began : Supplies κ}
    (initialised : Initialises (fresh variant) supplies start began) : start.variant = variant := by
  cases initialised with
  | live identity role => exact variant_init _ _ _ _
  | declared attributes =>
      have unfolded : Handler.initFrom (fresh variant) attributes supplies =
          (fresh variant).initFrom attributes supplies := rfl
      rw [unfolded, initFrom]
      split
      · rfl
      · exact variant_init _ _ _ _

/--
What a client of the mutual variant has done once it has shown its proof: it has drawn a nonce for
its hello and has heard a challenge with the tag that its key makes of that nonce and the server's.
-/
def deedsToProof (user : String) (key : SecretKey) (own nonce : Nonce) (server : String) :
    List Deed :=
  [.drew own,
    .said (.hello "p9sk1" user own.bytes),
    .heard (.challenge server nonce.bytes
      (some (Transcript.tag ⟨.p9sk1, .server, own.bytes, nonce.bytes, user⟩ key))),
    .said (.proof (Transcript.tag ⟨.p9sk1, .client, nonce.bytes, own.bytes, user⟩ key))]

theorem clientDeeds_eq {terms : Terms} (variant : terms.variant = .p9sk1) (key : SecretKey)
    (server : String) :
    terms.clientDeeds key server =
      deedsToProof terms.user key terms.clientNonce terms.serverNonce server := by
  obtain ⟨_, user, own, nonce⟩ := terms
  subst variant
  rfl

/--
A client of the mutual variant shows one proof at most, and only once the server has proved that it
knows the key. It shows a credential only after an accepting verdict has followed, and the
credential holds the session key of the two nonces.
-/
theorem server_proved_first {supplies began : Supplies κ} {user : String} {key : SecretKey}
    {last : SharedKey} {engaged : Bool}
    (initialised : Initialises (fresh .p9sk1) supplies start began)
    (client : start.lifecycle.role = some .client) (userEq : start.user = some user)
    (keyEq : start.key = some key) (life : Life κ start log ⟨last, engaged⟩) :
    (∀ tag, .said (.proof tag) ∈ log →
      ∃ own nonce server rest, log = deedsToProof user key own nonce server ++ rest ∧
        ∀ other, .said (.proof other) ∉ rest) ∧
    ∀ credential, (face last).credential = some credential →
      ∃ own nonce server reason,
        log = deedsToProof user key own nonce server ++ [.heard (.verdict true reason)] ∧
        credential = ⟨server, "p9sk1",
          Transcript.tag ⟨.p9sk1, .session, own.bytes, nonce.bytes, user⟩ key⟩ := by
  have variant := variant_initialises initialised
  obtain ⟨standing, _⟩ := (standing_initialises initialised).life life
  have deeds {terms : Terms} {known : SecretKey}
      (holds : Holds start .client terms known last.memory) (server : String) :
      terms.clientDeeds known server =
        deedsToProof user key terms.clientNonce terms.serverNonce server := by
    obtain ⟨sameUser, sameKey⟩ := holds.client rfl
    obtain rfl := Option.some.inj (sameUser.symm.trans userEq)
    obtain rfl := Option.some.inj (sameKey.symm.trans keyEq)
    exact clientDeeds_eq (holds.variant.symm.trans variant) known server
  constructor
  · intro tag shown
    obtain ⟨story, rest, rfl, storyEq, idle⟩ := standing.told
    have told : Deed.said (.proof tag) ∈ story := by
      rcases List.mem_append.mp shown with early | late
      · exact early
      · exact (idle _ late).elim
    cases storyEq with
    | silent => simp at told
    | proved holds server =>
        exact ⟨_, _, server, rest, by rw [deeds holds], fun other said => idle _ said⟩
    | challenged holds server => simp [holds.began] at client
    | accepted holds server => simp [holds.began] at client
  · intro credential shown
    cases standing.success shown with
    | @client terms known holds server reason =>
        refine ⟨_, _, server, reason, by rw [deeds holds], ?_⟩
        obtain ⟨sameUser, sameKey⟩ := holds.client rfl
        obtain rfl := Option.some.inj (sameUser.symm.trans userEq)
        obtain rfl := Option.some.inj (sameKey.symm.trans keyEq)
        rw [Terms.sessionKey, holds.variant.symm.trans variant]
        rfl
    | server holds server => simp [holds.began] at client

def aliceKey : SecretKey := ⟨[1, 2, 3]⟩

def aliceTerms : Terms := ⟨.p9sk1, "alice", Nonce.repeated 1, Nonce.repeated 2⟩

def aliceSupplies : Supplies MemoryKeys := ⟨.counting, MemoryKeys.insert {} "alice" aliceKey⟩

def alice : Initialised (Supplies MemoryKeys) SharedKey :=
  Handler.init (fresh .p9sk1) (some ⟨"alice", "p9sk1"⟩) .client aliceSupplies

theorem initialises_alice :
    Initialises (fresh .p9sk1) aliceSupplies alice.handler alice.surroundings :=
  .live (some ⟨"alice", "p9sk1"⟩) .client

theorem fits_alice : aliceTerms.hello.body.length ≤ longestBody ∧
    (aliceTerms.challenge "styx" aliceKey).body.length ≤ longestBody := by
  constructor
  · decide +kernel
  · have challenge := Message.length_challenge "styx" (Nonce.repeated 2).bytes
      (some (aliceTerms.serverProof aliceKey))
    have name : Json.written "styx" = 4 := by decide
    have nonce : nonceLength = 16 := rfl
    have longest : longestBody = 2048 := rfl
    rw [Hex.written_encode, Hex.written_encode, (Nonce.repeated 2).length_eq, Option.getD_some,
      Terms.serverProof, Transcript.tag, Hmac.length_tag] at challenge
    exact Nat.le_trans challenge (by omega)

theorem server_proved_first_alice :
    ∃ log last credential own nonce server reason,
      Life MemoryKeys alice.handler log ⟨last, false⟩ ∧
      (face last).credential = some credential ∧
      log = deedsToProof "alice" aliceKey own nonce server ++ [.heard (.verdict true reason)] ∧
      credential = ⟨server, "p9sk1",
        Transcript.tag ⟨.p9sk1, .session, own.bytes, nonce.bytes, "alice"⟩ aliceKey⟩ := by
  have primed : Primed aliceTerms.variant .client alice.handler :=
    primed_initialises initialises_alice rfl rfl
  have drawn : aliceSupplies.drawNonce =
      (some aliceTerms.clientNonce, aliceSupplies.drawNonce.2) := rfl
  have hails := primed.life_client rfl drawn fits_alice.1
  have awaits : AwaitsChallenge aliceTerms aliceKey _ := (primed.hailing rfl rfl).sent
  have proves := awaits.life "styx" fits_alice.2 aliceSupplies
  obtain ⟨last, ends, shown, _⟩ := (awaits.proving "styx").life aliceSupplies
  have life := (hails.trans proves).trans ends
  obtain ⟨_, earned⟩ := server_proved_first initialises_alice rfl rfl rfl life
  obtain ⟨own, nonce, server, reason, deeds, same⟩ := earned _ shown
  exact ⟨_, last, _, own, nonce, server, reason, life, shown, deeds, same⟩

end Parley.SharedKey
