import Parley.Proofs.Envelope.Calls
import Parley.Proofs.Lifecycle.Contract

/-!
The envelope keeps to the contract with its driver: it breaks ordinarily only, it never succeeds by
itself, and whom it delegates to is never itself.
-/

namespace Parley.Envelope

open Lifecycle

variable {ω : Type} {handler next : Envelope} {answer : Answer} {surroundings : ω}

/-! ## Names -/

theorem not_mem_addProtocol {protocols : List String} (unlisted : protocol ∉ protocols)
    (added : String) : protocol ∉ addProtocol protocols added := by
  simp only [addProtocol]
  split
  · exact unlisted
  · rename_i admitted
    intro member
    rcases List.mem_append.mp member with old | new
    · exact unlisted old
    · exact admitted (by simp [← List.mem_singleton.mp new])

theorem not_mem_normalize (names : List String) : protocol ∉ normalize names := by
  have folded (protocols : List String) (unlisted : protocol ∉ protocols) :
      protocol ∉ names.foldl addProtocol protocols := by
    induction names generalizing protocols with
    | nil => exact unlisted
    | cons first names ih => exact ih _ (not_mem_addProtocol unlisted first)
  exact folded [] nofun

/-! ## Work -/

def Planned : Settlement → Prop
  | .succeed _ => False
  | .delegate name => name ≠ protocol
  | _ => True

/-- An envelope that neither lists nor is about to delegate to itself. -/
structure Modest (handler : Envelope) : Prop where
  unlisted : protocol ∉ handler.protocols
  planned : ∀ settlement, handler.afterSend = some settlement → Planned settlement

structure Earnest (next : Envelope) (answer : Answer) : Prop where
  ordinarily : Ordinarily answer
  unsuccessful : answer ≠ .ok .success
  awake : ∀ seconds, answer ≠ .ok (.wait seconds)
  other : answer = .ok .delegated → ∃ name, next.lifecycle.face.info = some name ∧ name ≠ protocol
  modest : next.Modest

/-- The modes with which nobody succeeds, waits or delegates. -/
def Uneventful : Mode → Prop
  | .success | .delegated | .wait _ => False
  | _ => True

theorem earnest_ok {mode : Mode} (uneventful : Uneventful mode) (modest : handler.Modest) :
    Earnest handler (.ok mode) := by
  refine ⟨ordinarily_ok mode, ?_, ?_, ?_, modest⟩
  · rintro ⟨⟩
    exact uneventful
  · rintro _ ⟨⟩
    exact uneventful
  · rintro ⟨⟩
    exact uneventful.elim

theorem earnest_delegated (modest : handler.Modest) {name : String}
    (told : handler.lifecycle.face.info = some name) (other : name ≠ protocol) :
    Earnest handler (.ok .delegated) := by
  refine ⟨ordinarily_ok _, ?_, ?_, fun _ => ⟨name, told, other⟩, modest⟩
  · rintro ⟨⟩
  · rintro _ ⟨⟩

theorem earnest_error (modest : handler.Modest) {fault : Fault} (ordinary : fault.Ordinary) :
    Earnest handler (.error fault) := ⟨ordinarily_error ordinary, nofun, nofun, nofun, modest⟩

theorem earnest_fail (modest : handler.Modest) (reason : String) :
    Earnest { handler with lifecycle := handler.lifecycle.fail reason } (.ok .failed) :=
  have kept : Modest { handler with lifecycle := handler.lifecycle.fail reason } :=
    ⟨modest.unlisted, modest.planned⟩
  earnest_ok trivial kept

theorem earnest_reply (modest : handler.Modest) (message : Message) {settlement : Settlement}
    (planned : Planned settlement) :
    Earnest (handler.reply message settlement).1 (handler.reply message settlement).2 := by
  rw [reply, Outbox.queue]
  rcases encoded : message.encode with fault | bytes
  · exact earnest_error modest (ordinary_encode encoded)
  · have kept (outbox : Outbox) :
        Modest { handler with outbox, afterSend := some settlement } := by
      refine ⟨modest.unlisted, ?_⟩
      rintro _ ⟨⟩
      exact planned
    exact earnest_ok trivial (kept _)

theorem earnest_onChoice (modest : handler.Modest) (choice : String) :
    Earnest (handler.onChoice choice).1 (handler.onChoice choice).2 := by
  rw [onChoice]
  split
  · exact earnest_fail modest _
  · split
    · rename_i offered
      refine earnest_delegated ⟨modest.unlisted, modest.planned⟩ rfl ?_
      rintro rfl
      exact modest.unlisted (List.contains_iff_mem.mp offered)
    · exact earnest_fail modest _

theorem earnest_onOffer (modest : handler.Modest) (offered : List String) :
    Earnest (handler.onOffer offered).1 (handler.onOffer offered).2 := by
  rw [onOffer]
  split
  · rename_i choice found
    refine earnest_reply modest _ ?_
    rintro rfl
    exact modest.unlisted (List.mem_of_find?_eq_some found)
  · exact earnest_reply modest _ trivial

theorem earnest_onMessage (modest : handler.Modest) (message : Message) :
    Earnest (handler.onMessage message).1 (handler.onMessage message).2 := by
  rw [onMessage.eq_def]
  split
  · exact earnest_onChoice modest _
  · exact earnest_onOffer modest _
  · exact earnest_ok trivial modest
  · exact earnest_error modest trivial

theorem earnest_read (modest : handler.Modest) (blob : Blob) (surroundings : ω) :
    Earnest (handler.read blob surroundings).handler (handler.read blob surroundings).answer := by
  have kept (inbox : Inbox) : Modest { handler with inbox } := ⟨modest.unlisted, modest.planned⟩
  simp only [read]
  split
  · rename_i fault broken
    exact earnest_error (kept _) (ordinary_next broken)
  · exact earnest_ok trivial (kept _)
  · rename_i message inbox _
    exact earnest_onMessage (kept inbox) message

theorem earnest_prepare (modest : handler.Modest) :
    Earnest handler.prepare.1 handler.prepare.2 := by
  have kept : Modest { handler with started := true } := ⟨modest.unlisted, modest.planned⟩
  rw [prepare]
  split
  · exact earnest_ok trivial modest
  · split
    · exact earnest_ok trivial kept
    · exact earnest_reply kept _ trivial

theorem earnest_flush (modest : handler.Modest) (blob : Blob) :
    Earnest (handler.flush blob).1 (.ok (handler.flush blob).2.2) := by
  have settled (outbox : Outbox) (lifecycle : Lifecycle) :
      Modest { handler with outbox, afterSend := none, lifecycle } := by
    refine ⟨modest.unlisted, ?_⟩
    rintro _ ⟨⟩
  simp only [flush]
  split
  · rcases planned : handler.afterSend with _ | settlement
    · exact earnest_ok trivial (settled _ _)
    · have allowed := modest.planned settlement planned
      cases settlement with
      | await => exact earnest_ok trivial (settled _ _)
      | succeed credential => exact allowed.elim
      | fail reason => exact earnest_ok trivial (settled _ _)
      | delegate name => exact earnest_delegated (settled _ _) rfl allowed
  · have kept (outbox : Outbox) : Modest { handler with outbox } :=
      ⟨modest.unlisted, modest.planned⟩
    exact earnest_ok trivial (kept _)

theorem earnest_write (modest : handler.Modest) (blob : Blob) (surroundings : ω) :
    Earnest (handler.write blob surroundings).handler (handler.write blob surroundings).answer := by
  have prepared := earnest_prepare modest
  rw [write]
  revert prepared
  rcases handler.prepare with ⟨next, given⟩
  intro prepared
  split
  · rename_i same
    cases same
    exact earnest_flush prepared.modest blob
  · rename_i same
    cases same
    exact prepared

/-! ## Calls -/

/-- An envelope that is true to the protocol that it states. -/
structure Honest (handler : Envelope) : Prop extends Modest handler where
  protocol_eq : handler.lifecycle.face.protocol = protocol

def letIn (handler : Envelope) : Envelope :=
  { handler with
    lifecycle := { handler.lifecycle with exchange := some .blob, stage := .exchanging } }

theorem call_of_open (work : Envelope → Blob → ω → Turn ω Envelope) (blob : Blob)
    (surroundings : ω) (still : handler.lifecycle.Open .blob) :
    handler.call work blob surroundings =
      let turn := work handler.letIn blob surroundings
      { turn with handler := turn.handler.settle turn.answer } := by
  rw [call, still.enter]
  rfl

theorem Honest.modest_letIn (honest : handler.Honest) : handler.letIn.Modest :=
  ⟨honest.unlisted, honest.planned⟩

theorem Honest.call {work : Envelope → Blob → ω → Turn ω Envelope} {blob : Blob}
    (honest : handler.Honest) (still : handler.lifecycle.Open .blob)
    (worked : ∀ (handler : Envelope) (blob : Blob) (surroundings : ω),
      Worked handler.lifecycle (work handler blob surroundings).handler.lifecycle
        (work handler blob surroundings).answer)
    (earnest : ∀ {handler : Envelope}, handler.Modest → ∀ (blob : Blob) (surroundings : ω),
      Earnest (work handler blob surroundings).handler (work handler blob surroundings).answer) :
    Behaves .blob handler.lifecycle (handler.call work blob surroundings).handler.lifecycle
      (handler.call work blob surroundings).handler.Honest
      (handler.call work blob surroundings).answer := by
  have work := worked handler.letIn blob surroundings
  obtain ⟨ordinarily, unsuccessful, _, other, modest⟩ :=
    earnest honest.modest_letIn blob surroundings
  have stated := work.protocol.trans honest.protocol_eq
  rw [call_of_open _ _ _ still]
  refine ⟨(protocol_settle _ _).trans work.protocol, (role_settle _ _).trans work.role, ?_, ?_⟩
  · exact fares_settle ⟨rfl, rfl⟩ work ordinarily (fun success => absurd success unsuccessful)
      fun delegated => ⟨stated, other delegated⟩
  · exact fun _ => ⟨⟨modest.unlisted, modest.planned⟩, (protocol_settle _ _).trans stated⟩

theorem Honest.produce {blob : Blob} (honest : handler.Honest)
    (still : handler.lifecycle.Open .blob) :
    Behaves .blob handler.lifecycle (Handler.produce handler blob surroundings).handler.lifecycle
      (Handler.produce handler blob surroundings).handler.Honest
      (Handler.produce handler blob surroundings).answer :=
  honest.call still worked_write earnest_write

theorem Honest.consume {blob : Blob} (honest : handler.Honest)
    (still : handler.lifecycle.Open .blob) :
    Behaves .blob handler.lifecycle (Handler.consume handler blob surroundings).handler.lifecycle
      (Handler.consume handler blob surroundings).handler.Honest
      (Handler.consume handler blob surroundings).answer :=
  honest.call still worked_read earnest_read

theorem Honest.takeOver (honest : handler.Honest) (still : handler.lifecycle.Open .takeover)
    {given : Option Answer}
    (leads : (handler.takeOver surroundings).dialogue.Leads (next, given)) :
    Unfolds handler.lifecycle next.lifecycle next.Honest given := by
  rw [Envelope.takeOver, still.enter] at leads
  cases Dialogue.leads_done_iff.mp leads
  refine .answered ⟨rfl, rfl, .declined honest.protocol_eq, fun _ => ?_⟩ ?_
  · exact ⟨⟨honest.unlisted, honest.planned⟩, honest.protocol_eq⟩
  · rintro _ ⟨⟩
    rfl

/-! ## Initialisation -/

theorem honest_initialises {names : List String} {early later : ω}
    (initialises : Initialises (fresh names) early handler later) : handler.Honest := by
  have initial := initial_initialises initialises
  have unlisted : protocol ∉ handler.protocols := by
    rcases initial.protocols with same | ⟨others, same⟩
    · rw [same]
      exact not_mem_normalize names
    · rw [same]
      exact not_mem_normalize others
  have planned : ∀ settlement, handler.afterSend = some settlement → Planned settlement := by
    rw [initial.afterSend]
    rintro _ ⟨⟩
  exact ⟨⟨unlisted, planned⟩, initial.protocol⟩

end Parley.Envelope
