import Parley.Envelope
import Parley.Proofs.Handler.History
import Parley.Proofs.Lifecycle.Calls

/-! What calls of the envelope do to its lifecycle. -/

namespace Parley.Envelope

open Lifecycle

theorem worked_reply (handler : Envelope) (message : Message) (settlement : Settlement) :
    Worked handler.lifecycle (handler.reply message settlement).1.lifecycle
      (handler.reply message settlement).2 := by
  rw [reply]
  split
  · exact worked_broken _
  · exact worked_going rfl (by simp) (by simp)

theorem worked_onMessage (handler : Envelope) (message : Message) :
    Worked handler.lifecycle (handler.onMessage message).1.lifecycle
      (handler.onMessage message).2 := by
  rw [onMessage.eq_def]
  split
  · rw [onChoice]
    split
    · exact worked_fail _
    · split
      · exact worked_delegate _
      · exact worked_fail _
  · rw [onOffer]
    split <;> exact worked_reply handler _ _
  · exact worked_going rfl (by simp) (by simp)
  · exact worked_broken _

theorem worked_prepare (handler : Envelope) :
    Worked handler.lifecycle handler.prepare.1.lifecycle handler.prepare.2 := by
  rw [prepare]
  split
  · exact worked_going rfl (by simp) (by simp)
  · split
    · exact worked_going rfl (by simp) (by simp)
    · exact worked_reply { handler with started := true } _ _

theorem lifecycle_prepare (handler : Envelope) :
    handler.prepare.1.lifecycle = handler.lifecycle := by
  rw [prepare]
  split
  · rfl
  · split
    · rfl
    · rw [reply]
      split <;> rfl

theorem worked_flush (handler : Envelope) (blob : Blob) :
    Worked handler.lifecycle (handler.flush blob).1.lifecycle (.ok (handler.flush blob).2.2) := by
  simp only [flush]
  split
  · exact worked_apply _
  · exact worked_going rfl (by simp) (by simp)

variable {ω : Type}

theorem worked_write (handler : Envelope) (blob : Blob) (surroundings : ω) :
    Worked handler.lifecycle (handler.write blob surroundings).handler.lifecycle
      (handler.write blob surroundings).answer := by
  have prepared := worked_prepare handler
  have kept := lifecycle_prepare handler
  rw [write]
  revert prepared kept
  rcases handler.prepare with ⟨next, answer⟩
  intro prepared kept
  split
  · rename_i same
    cases same
    rw [← kept]
    exact worked_flush next blob
  · rename_i same
    cases same
    exact prepared

theorem worked_read (handler : Envelope) (blob : Blob) (surroundings : ω) :
    Worked handler.lifecycle (handler.read blob surroundings).handler.lifecycle
      (handler.read blob surroundings).answer := by
  simp only [read]
  split
  · exact worked_broken _
  · exact worked_going rfl (by simp) (by simp)
  · rename_i message inbox _
    exact worked_onMessage { handler with inbox } message

structure Initial (before after : Envelope) : Prop where
  unstarted : after.lifecycle.Unstarted
  protocol : after.lifecycle.face.protocol = before.lifecycle.face.protocol
  exchange : after.lifecycle.exchange = before.lifecycle.exchange
  protocols : after.protocols = before.protocols ∨ ∃ names, after.protocols = normalize names
  inbox : after.inbox = before.inbox
  outbox : after.outbox = before.outbox
  afterSend : after.afterSend = before.afterSend
  started : after.started = before.started

theorem initial_refuse (handler : Envelope) (reason : String) (surroundings : ω) :
    Initial handler (handler.refuse reason surroundings).handler :=
  ⟨unstarted_refuse _ _, rfl, rfl, Or.inl rfl, rfl, rfl, rfl, rfl⟩

theorem initial_init (handler : Envelope) (identity : Option Identity) (role : Role)
    (surroundings : ω) : Initial handler (handler.init identity role surroundings).handler := by
  rw [init]
  split
  · exact initial_refuse _ _ _
  · split
    · exact initial_refuse _ _ _
    · split
      · exact initial_refuse _ _ _
      · exact ⟨unstarted_bind _ _ _, rfl, rfl, Or.inl rfl, rfl, rfl, rfl, rfl⟩

theorem Initial.of_configured {handler middle last : Envelope} {attributes : Attributes}
    (configured : handler.configureProtocols attributes = .ok middle)
    (initial : Initial middle last) : Initial handler last := by
  rw [configureProtocols] at configured
  split at configured
  · cases configured
    exact initial
  · dsimp only at configured
    split at configured
    · cases configured
    · cases configured
      refine { initial with protocols := Or.inr ?_ }
      rcases initial.protocols with same | other
      · exact ⟨_, same⟩
      · exact other

theorem initial_initFrom (handler : Envelope) (attributes : Attributes) (surroundings : ω) :
    Initial handler (handler.initFrom attributes surroundings).handler := by
  rw [initFrom]
  split
  · exact initial_refuse _ _ _
  · split
    · exact initial_refuse _ _ _
    · split
      · exact initial_refuse _ _ _
      · rename_i configured
        split
        · exact (initial_refuse _ _ surroundings).of_configured configured
        · exact (initial_init _ _ _ surroundings).of_configured configured

theorem initial_initialises {handler next : Envelope} {surroundings later : ω}
    (initialises : Initialises handler surroundings next later) : Initial handler next := by
  cases initialises with
  | live identity role => exact initial_init handler identity role surroundings
  | declared attributes => exact initial_initFrom handler attributes surroundings

theorem called_call {work : Envelope → Blob → ω → Turn ω Envelope}
    (worked : ∀ (handler : Envelope) (blob : Blob) (surroundings : ω),
      Worked handler.lifecycle (work handler blob surroundings).handler.lifecycle
        (work handler blob surroundings).answer)
    (handler : Envelope) (blob : Blob) (surroundings : ω) :
    Called handler.lifecycle (call work handler blob surroundings).handler.lifecycle
      (some (call work handler blob surroundings).answer) := by
  rw [call]
  rcases entered : handler.lifecycle.enter .blob with ⟨lifecycle, _ | answer⟩
  · exact called_settle (entry_enter entered) rfl rfl
      (worked { handler with lifecycle } blob surroundings)
  · exact .answered (entry_enter entered)

theorem called_takeOver {handler : Envelope} {surroundings : ω} {script : Script} {bound : Nat}
    {takeover : Takeover ω Envelope}
    (ran : Takeover.run bound handler surroundings script = some takeover) :
    Called handler.lifecycle takeover.handler.lifecycle takeover.answer := by
  have opening : Handler.takeOver handler surroundings = handler.takeOver surroundings := rfl
  rw [Takeover.run, opening] at ran
  cases bound with
  | zero => cases ran
  | succ bound =>
      rw [Takeover.follow] at ran
      rcases entered : handler.lifecycle.enter .takeover with ⟨lifecycle, _ | answer⟩
      · simp only [takeOver, entered, Script.play, Option.some.injEq] at ran
        subst ran
        exact .ended (entry_enter entered) rfl (by simp [decline, finish])
      · simp only [takeOver, entered, Script.play, Option.some.injEq] at ran
        subst ran
        exact .answered (entry_enter entered)

theorem called_contact {handler next : Envelope} {surroundings later : ω} {taken : Bytes}
    {answer : Option Answer} (contact : Contact handler surroundings taken answer next later) :
    Called handler.lifecycle next.lifecycle answer := by
  cases contact with
  | produce blob => exact called_call worked_write handler blob surroundings
  | consume blob => exact called_call worked_read handler blob surroundings
  | process ran => exact called_takeOver ran

end Parley.Envelope
