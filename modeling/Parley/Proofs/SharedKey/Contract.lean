import Parley.Proofs.Lifecycle.Contract
import Parley.Proofs.SharedKey.Emission

/-!
Shared-key handlers keep to the contract with their driver: whatever the peer sends and whatever
keys and nonces there are, they break ordinarily only, they never delegate, and the credential that
they succeed with is for the protocol that they state.
-/

namespace Parley.SharedKey

open Lifecycle

variable {κ : Type} {start handler next : SharedKey} {answer : Answer} {log : List Deed}

/-! ## Faults -/

theorem ordinarily_reply (handler : SharedKey) (message : Message) (settlement : Settlement) :
    Ordinarily (handler.reply message settlement).2 := by
  rw [reply, Outbox.queue]
  rcases encoded : message.encode with fault | bytes
  · exact ordinarily_error (ordinary_encode encoded)
  · exact ordinarily_ok _

theorem ordinarily_malformed (handler : SharedKey) (problem : Malformation) :
    Ordinarily (handler.malformed problem).2 := ordinarily_error trivial

theorem ordinarily_reject (handler : SharedKey) (refusal : Refusal) :
    Ordinarily (handler.reject refusal).2 := ordinarily_reply _ _ _

theorem ordinarily_onChallenge (handler : SharedKey) (server : String) (nonce : Bytes)
    (tag : Option Bytes) : Ordinarily (handler.onChallenge server nonce tag).2 := by
  simp only [onChallenge]
  split
  · exact ordinarily_malformed handler _
  · split
    · split
      · exact ordinarily_malformed handler _
      · exact ordinarily_reject handler _
      · exact ordinarily_reply _ _ _
    · exact ordinarily_ok _

theorem ordinarily_onClientMessage (handler : SharedKey) (message : Message) :
    Ordinarily (handler.onClientMessage message).2 := by
  rw [onClientMessage.eq_def]
  split
  · split
    · exact ordinarily_onChallenge handler _ _ _
    · exact ordinarily_malformed handler _
  · split
    · rw [onAcceptance]
      split <;> exact ordinarily_ok _
    · exact ordinarily_malformed handler _
  · split
    · exact ordinarily_ok _
    · exact ordinarily_malformed handler _
  · exact ordinarily_malformed handler _

theorem ordinarily_challenge (handler : SharedKey) (user : String) (nonce : Bytes)
    (key : SecretKey) (supplies : Supplies κ) :
    Ordinarily (handler.challenge user nonce key supplies).2.2 := by
  rcases drawn : supplies.drawNonce with ⟨_ | own, later⟩
  · rw [challenge, drawn]
    exact ordinarily_error trivial
  · rw [challenge_of_drawn handler drawn]
    dsimp only [Prod.map]
    exact ordinarily_reply _ _ _

theorem ordinarily_onProof (handler : SharedKey) (tag : Bytes) :
    Ordinarily (handler.onProof tag).2 := by
  rcases known : handler.key with _ | key
  · rw [onProof, known]
    exact ordinarily_ok _
  · rcases named : handler.user with _ | user
    · rw [onProof, known, named]
      exact ordinarily_ok _
    · rw [onProof_of_keyed handler known named]
      split
      · exact ordinarily_reply _ _ _
      · exact ordinarily_reject handler _

variable [KeyStore κ]

theorem ordinarily_onHello (handler : SharedKey) (protocol user : String) (nonce : Bytes)
    (supplies : Supplies κ) : Ordinarily (handler.onHello protocol user nonce supplies).2.2 := by
  simp only [onHello]
  split
  · exact ordinarily_malformed handler _
  · split
    · dsimp only
      exact ordinarily_reject handler _
    · split
      · dsimp only
        exact ordinarily_reject handler _
      · split
        · exact ordinarily_challenge handler _ _ _ _
        · dsimp only
          exact ordinarily_reject handler _
        · exact ordinarily_ok _

theorem ordinarily_onMessage (handler : SharedKey) (message : Message) (supplies : Supplies κ) :
    Ordinarily (handler.onMessage message supplies).2.2 := by
  rw [onMessage]
  split
  · exact ordinarily_onClientMessage handler message
  · simp only [onServerMessage]
    split
    · split
      · exact ordinarily_onHello handler _ _ _ supplies
      · exact ordinarily_malformed handler _
    · split
      · exact ordinarily_onProof handler _
      · exact ordinarily_malformed handler _
    · split
      · exact ordinarily_ok _
      · exact ordinarily_malformed handler _
    · exact ordinarily_malformed handler _
  · exact ordinarily_ok _

theorem ordinarily_read (handler : SharedKey) (blob : Blob) (supplies : Supplies κ) :
    Ordinarily (handler.read blob supplies).answer := by
  simp only [read]
  split
  · rename_i fault failed
    refine ordinarily_error ?_
    simp only [nextMessage] at failed
    split at failed
    · cases failed
    · split at failed
      · rename_i broken
        cases failed
        exact ordinary_next broken
      · cases failed
      · cases failed
  · exact ordinarily_ok _
  · rename_i message next found
    have ordinarily := ordinarily_onMessage next message supplies
    dsimp only
    split
    · split <;> exact ordinarily_ok _
    · exact ordinarily

omit [KeyStore κ] in
theorem ordinarily_prepare (handler : SharedKey) (supplies : Supplies κ) :
    Ordinarily (handler.prepare supplies).2.2 := by
  simp only [prepare]
  split
  · exact ordinarily_ok _
  · split
    · exact ordinarily_ok _
    · split
      · exact ordinarily_ok _
      · simp only [sayHello]
        split
        · exact ordinarily_error trivial
        · dsimp only
          exact ordinarily_reply _ _ _
    · exact ordinarily_ok _
    · exact ordinarily_ok _

omit [KeyStore κ] in
theorem ordinarily_write (handler : SharedKey) (blob : Blob) (supplies : Supplies κ) :
    Ordinarily (handler.write blob supplies).answer := by
  have prepared := ordinarily_prepare handler supplies
  rw [write]
  revert prepared
  rcases handler.prepare supplies with ⟨next, later, given⟩
  intro prepared
  split
  · exact ordinarily_ok _
  · rename_i same
    cases same
    exact prepared

/-! ## Delegation -/

def Undelegating (handler : SharedKey) : Prop :=
  ∀ name, handler.afterSend ≠ some (.delegate name)

omit [KeyStore κ] in
theorem Response.undelegating {supplies later : Supplies κ} {message : Message}
    {reply : Option Message} {mode : Mode} (undelegating : handler.Undelegating)
    (response : Response handler supplies message reply next later (.ok mode)) :
    mode ≠ .delegated ∧ next.Undelegating := by
  cases response with
  | rejected _ _ _ => exact ⟨by simp, fun name same => by cases same⟩
  | failed => exact ⟨by simp, undelegating⟩
  | unbound _ => exact ⟨by simp, undelegating⟩
  | keyless _ _ => exact ⟨by simp, undelegating⟩
  | proved _ _ _ _ _ _ => exact ⟨by simp, fun name same => by cases same⟩
  | admitted _ _ _ _ => exact ⟨by simp, undelegating⟩
  | delayed _ _ _ => exact ⟨by simp, undelegating⟩
  | challenged _ _ _ _ _ _ => exact ⟨by simp, fun name same => by cases same⟩
  | accepted _ _ _ _ _ => exact ⟨by simp, fun name same => by cases same⟩

omit [KeyStore κ] in
theorem undelegating_nextMessage (undelegating : handler.Undelegating) {message : Message}
    (found : handler.nextMessage = .ok (some (message, next))) : next.Undelegating := by
  simp only [nextMessage] at found
  split at found
  · cases found
    exact undelegating
  · split at found <;> cases found
    exact undelegating

theorem Reading.undelegating {supplies later : Supplies κ} {bytes : Bytes} {mode : Mode}
    (undelegating : handler.Undelegating)
    (reading : Reading handler supplies bytes next later (.ok mode)) :
    mode ≠ .delegated ∧ next.Undelegating := by
  cases reading with
  | incomplete _ => exact ⟨by simp, undelegating⟩
  | @handled message middle _ _ _ _ found handled same =>
      obtain ⟨_, response⟩ := response_onMessage middle supplies message
      rw [handled] at response
      have givenAnswer := same.resolve_right fun needs => response.answer_ne needs.1
      subst givenAnswer
      have kept : (handler.receiving bytes).Undelegating := undelegating
      exact response.undelegating (undelegating_nextMessage kept found)

omit [KeyStore κ] in
theorem Preparation.undelegating {supplies later : Supplies κ} {mode : Mode}
    (undelegating : handler.Undelegating)
    (prepared : Preparation handler supplies next later (.ok mode)) :
    mode ≠ .delegated ∧ next.Undelegating := by
  cases prepared with
  | queued _ => exact ⟨by simp, undelegating⟩
  | idle reason _ => exact ⟨by rcases reason with rfl | rfl <;> simp, undelegating⟩
  | opened _ _ _ => exact ⟨by simp, undelegating⟩
  | greeted _ _ _ _ _ _ => exact ⟨by simp, fun name same => by cases same⟩

omit [KeyStore κ] in
theorem Writing.undelegating {supplies later : Supplies κ} {mode : Mode}
    (undelegating : handler.Undelegating)
    (writing : Writing handler supplies next later (.ok mode)) :
    mode ≠ .delegated ∧ next.Undelegating := by
  cases writing with
  | unready prepared _ => exact prepared.undelegating undelegating
  | @flushed middle _ _ _ prepared flushed =>
      have kept := (prepared.undelegating undelegating).2
      cases flushed with
      | partly _ => exact ⟨by simp, kept⟩
      | wholly =>
          refine ⟨?_, nofun⟩
          rcases planned : middle.afterSend with _ | settlement
          · simp [apply]
          · cases settlement with
            | delegate name => exact absurd planned (kept name)
            | _ => simp [apply]

/-! ## Calls -/

structure Honest (handler : SharedKey) : Prop where
  stands : ∃ start log, Standing start handler log ∧
    start.variant.protocol = handler.lifecycle.face.protocol
  undelegating : handler.Undelegating

omit [KeyStore κ] in
theorem Standing.protocol_eq (standing : Standing start handler log) {credential : Credential}
    (shown : handler.lifecycle.face.credential = some credential) :
    credential.protocol = start.variant.protocol := by
  cases standing.success shown with
  | client holds _ _ => rw [holds.variant]
  | server holds _ => rw [holds.variant]

omit [KeyStore κ] in
theorem behaves_settle {before : Lifecycle} {opened worked : SharedKey} {kind : ExchangeKind}
    (engaged : opened.lifecycle.Engaged kind) (same : opened.lifecycle.face = before.face)
    (protocol : start.variant.protocol = before.face.protocol)
    (standing : Standing start (worked.settle answer) log)
    (work : Worked opened.lifecycle worked.lifecycle answer) (ordinarily : Ordinarily answer)
    (undelegating : ∀ mode, answer = .ok mode → mode ≠ .delegated ∧ worked.Undelegating) :
    Behaves kind before (worked.settle answer).lifecycle (worked.settle answer).Honest answer := by
  have kept : worked.lifecycle.face.protocol = before.face.protocol :=
    work.protocol.trans (congrArg _ same)
  have stated := protocol.trans kept.symm
  have role : worked.lifecycle.role = before.role :=
    work.role.trans (congrArg (·.role) same)
  refine ⟨(protocol_settle _ _).trans kept, (role_settle _ _).trans role, ?_, ?_⟩
  · refine fares_settle engaged work ordinarily ?_ ?_
    · rintro rfl credential shown
      exact (standing.protocol_eq shown).trans stated
    · rintro rfl
      exact absurd rfl (undelegating _ rfl).1
  · rintro mode rfl
    exact ⟨⟨start, log, standing, stated⟩, (undelegating _ rfl).2⟩

variable {kind : ExchangeKind} {blob : Blob} {supplies : Supplies κ}

def letIn (handler : SharedKey) (kind : ExchangeKind) : SharedKey :=
  { handler with
    lifecycle := { handler.lifecycle with exchange := some kind, stage := .exchanging } }

omit [KeyStore κ] in
theorem engaged_letIn (handler : SharedKey) (kind : ExchangeKind) :
    (handler.letIn kind).lifecycle.Engaged kind := ⟨rfl, rfl⟩

omit [KeyStore κ] in
theorem call_of_open (work : SharedKey → Blob → Supplies κ → Turn (Supplies κ) SharedKey)
    (blob : Blob) (supplies : Supplies κ) (still : handler.lifecycle.Open .blob) :
    handler.call work blob supplies =
      let turn := work (handler.letIn .blob) blob supplies
      { turn with handler := turn.handler.settle turn.answer } := by
  rw [call, still.enter]
  rfl

theorem Honest.produce (honest : handler.Honest) (still : handler.lifecycle.Open .blob) :
    Behaves .blob handler.lifecycle (Handler.produce handler blob supplies).handler.lifecycle
      (Handler.produce handler blob supplies).handler.Honest
      (Handler.produce handler blob supplies).answer := by
  obtain ⟨⟨start, log, standing, protocol⟩, undelegating⟩ := honest
  have act : Move κ ⟨handler, false⟩ _ _ :=
    .produce (rfl : Handler.produce handler blob supplies = _)
  have moved := (Standing.move standing (by simp) act).1
  have called : Handler.produce handler blob supplies = handler.call write blob supplies := rfl
  rw [called, call_of_open write blob supplies still] at moved ⊢
  have writing := writing_write (handler.letIn .blob) blob supplies
  refine behaves_settle (handler.engaged_letIn .blob) rfl protocol moved writing.worked
    (ordinarily_write _ _ _) fun mode answered => ?_
  have kept : (handler.letIn .blob).Undelegating := undelegating
  rw [answered] at writing
  exact writing.undelegating kept

theorem Honest.consume (honest : handler.Honest) (still : handler.lifecycle.Open .blob) :
    Behaves .blob handler.lifecycle (Handler.consume handler blob supplies).handler.lifecycle
      (Handler.consume handler blob supplies).handler.Honest
      (Handler.consume handler blob supplies).answer := by
  obtain ⟨⟨start, log, standing, protocol⟩, undelegating⟩ := honest
  have act : Move κ ⟨handler, false⟩ _ _ :=
    .consume (rfl : Handler.consume handler blob supplies = _)
  have moved := (Standing.move standing (by simp) act).1
  have called : Handler.consume handler blob supplies = handler.call read blob supplies := rfl
  rw [called, call_of_open read blob supplies still] at moved ⊢
  have reading := reading_read (handler.letIn .blob) blob supplies
  refine behaves_settle (handler.engaged_letIn .blob) rfl protocol moved reading.worked
    (ordinarily_read _ _ _) fun mode answered => ?_
  have kept : (handler.letIn .blob).Undelegating := undelegating
  rw [answered] at reading
  exact reading.undelegating kept

theorem Honest.takeOver (honest : handler.Honest) (still : handler.lifecycle.Open .takeover)
    {given : Option Answer}
    (leads : (Handler.takeOver handler supplies).dialogue.Leads (next, given)) :
    Unfolds handler.lifecycle next.lifecycle next.Honest given := by
  obtain ⟨⟨start, log, standing, protocol⟩, undelegating⟩ := honest
  have act : Move κ ⟨handler, false⟩ _ _ := .takeOver rfl leads
  have moved := (Standing.move standing (by simp) act).1
  have began : Handler.takeOver handler supplies = handler.takeOver supplies := rfl
  rw [began, takeOver_of_enter still.enter] at leads
  cases Dialogue.leads_done_iff.mp leads
  exact .onward rfl rfl ⟨⟨start, _, moved, protocol⟩, undelegating⟩ ⟨rfl, rfl⟩

theorem ordinarily_round (handler : SharedKey) (supplies : Supplies κ) :
    Ordinarily (handler.round supplies).answer := by
  rw [round]
  split
  · exact ordinarily_read _ _ _
  · exact ordinarily_write _ _ _

theorem undelegating_round (undelegating : handler.Undelegating) {mode : Mode}
    (answered : (handler.round supplies).answer = .ok mode) :
    mode ≠ .delegated ∧ (handler.round supplies).handler.Undelegating := by
  revert answered
  rw [round]
  split
  · intro answered
    have reading := reading_read handler handler.desk supplies
    rw [answered] at reading
    exact reading.undelegating undelegating
  · intro answered
    have writing := writing_write handler handler.desk.clear supplies
    rw [answered] at writing
    exact writing.undelegating undelegating

theorem Honest.carryOn (honest : handler.Honest) (engaged : handler.lifecycle.Engaged .takeover)
    {given : Option Answer}
    (leads : (Handler.carryOn handler supplies).dialogue.Leads (next, given)) :
    Unfolds handler.lifecycle next.lifecycle next.Honest given := by
  obtain ⟨⟨start, log, standing, protocol⟩, undelegating⟩ := honest
  have act : Move κ ⟨handler, true⟩ _ _ := .carryOn rfl leads
  have ⟨more, moved⟩ : ∃ more, Standing start next more :=
    ⟨_, (standing.move (fun _ => engaged.stage) act).1⟩
  have worked := worked_round handler supplies
  have ordinarily := ordinarily_round handler supplies
  have rounds := rounds_carryOn (leads : (handler.carryOn supplies).dialogue.Leads (next, given))
  cases rounds with
  | @broken fault answered =>
      have ordinary := ordinarily fault answered
      exact .answered ⟨worked.protocol, worked.role, .broken ordinary, nofun⟩ nofun
  | @worked mode _ _ answered outgrowth =>
      rw [answered] at worked
      have kept := undelegating_round undelegating answered
      cases outgrowth with
      | onward goes desk _ =>
          have going : mode.isFinal = false := by cases mode <;> first | rfl | cases goes
          refine .onward worked.protocol worked.role
            ⟨⟨start, more, moved, protocol.trans worked.protocol.symm⟩, kept.2⟩ ⟨?_, ?_⟩
          · exact worked.exchange.trans engaged.exchange
          · exact (worked.kept_of_going going).1.trans engaged.stage
      | ended stops =>
          let last :=
            { (handler.round supplies).handler with desk := (handler.round supplies).blob }
          have settled : Standing start (last.settle (.ok mode)) more := moved
          have working : Lifecycle.Worked handler.lifecycle last.lifecycle (.ok mode) := worked
          refine .answered (behaves_settle engaged rfl protocol settled working
            (ordinarily_ok mode) ?_) ?_
          · rintro _ ⟨⟩
            exact kept
          · rintro _ ⟨⟩
            exact stops
      | broken fails =>
          exact .answered ⟨worked.protocol, worked.role, .broken fails.ordinary, nofun⟩ nofun

/-! ## Initialisation -/

theorem protocol_init (handler : SharedKey) (identity : Option Identity) (role : Role)
    (supplies : Supplies κ) :
    (handler.init identity role supplies).handler.lifecycle.face.protocol =
      handler.lifecycle.face.protocol := by
  simp only [init]
  split
  · rfl
  · split
    · rfl
    · rw [initClient]
      split <;> rfl
    · rfl

theorem protocol_initialises {variant : Variant} {supplies began : Supplies κ}
    (initialised : Initialises (fresh variant) supplies start began) :
    start.lifecycle.face.protocol = variant.protocol := by
  cases initialised with
  | live identity role => exact protocol_init _ _ _ _
  | declared attributes =>
      have unfolded : Handler.initFrom (fresh variant) attributes supplies =
          (fresh variant).initFrom attributes supplies := rfl
      rw [unfolded, initFrom]
      split
      · rfl
      · exact protocol_init _ _ _ _

theorem honest_initialises {variant : Variant} {supplies began : Supplies κ}
    (initialised : Initialises (fresh variant) supplies start began)
    (bound : start.lifecycle.stage = .bound) : start.Honest := by
  rcases refused_or_primed initialised with refused | ⟨role, primed⟩
  · cases refused.stage.symm.trans bound
  · refine ⟨⟨start, [], standing_initialises initialised, ?_⟩, ?_⟩
    · rw [protocol_initialises initialised, primed.variant]
    · rw [Undelegating, primed.afterSend]
      exact nofun

end Parley.SharedKey
