import Parley.Proofs.Envelope.Contract
import Parley.Proofs.Lifecycle.Endings

/-!
How envelopes end. An envelope that has a role never answers that it has no identity, and a
takeover ends it at once.
-/

namespace Parley.Envelope

open Lifecycle

variable {ω : Type} {handler next : Envelope} {kind : ExchangeKind} {answer : Option Answer}
  {now later surroundings : ω}

theorem identified_reply (handler : Envelope) (message : Message) (settlement : Settlement) :
    (handler.reply message settlement).2 ≠ .ok .noIdentity := by
  rw [reply]
  split <;> simp

theorem identified_write (handler : Envelope) (blob : Blob) (surroundings : ω) :
    (handler.write blob surroundings).answer ≠ .ok .noIdentity := by
  have prepared : handler.prepare.2 ≠ .ok .noIdentity := by
    rw [prepare]
    split
    · simp
    · split
      · simp
      · exact identified_reply _ _ _
  rw [write]
  revert prepared
  rcases handler.prepare with ⟨middle, given⟩
  intro prepared
  split
  · simp only [flush]
    split
    · rename_i sending _ _
      cases sending.afterSend.getD .await <;> intro same <;> cases same
    · simp
  · rename_i same
    cases same
    exact prepared

theorem identified_read (role : handler.lifecycle.role ≠ none) (blob : Blob) (surroundings : ω) :
    (handler.read blob surroundings).answer ≠ .ok .noIdentity := by
  have heard (inbox : Inbox) (message : Message) :
      (({ handler with inbox } : Envelope).onMessage message).2 ≠ .ok .noIdentity := by
    rw [onMessage.eq_def]
    split
    · rw [onChoice]
      split
      · simp
      · split <;> simp
    · rw [onOffer]
      split <;> exact identified_reply _ _ _
    · rename_i noRole
      exact absurd noRole role
    · simp
  simp only [read]
  split
  · simp
  · simp
  · exact heard _ _

theorem left_call {work : Envelope → Blob → ω → Turn ω Envelope} {blob : Blob}
    (still : handler.lifecycle.Open .blob)
    (worked : Worked handler.letIn.lifecycle (work handler.letIn blob surroundings).handler.lifecycle
      (work handler.letIn blob surroundings).answer)
    (identified : (work handler.letIn blob surroundings).answer ≠ .ok .noIdentity) :
    Left .blob handler.lifecycle (handler.call work blob surroundings).handler.lifecycle
      (some (handler.call work blob surroundings).answer) := by
  have engaged : handler.letIn.lifecycle.Engaged .blob := ⟨rfl, rfl⟩
  rw [call_of_open work blob surroundings still]
  exact left_settle engaged rfl worked identified

theorem left_visit (still : handler.lifecycle.Open kind) (role : handler.lifecycle.role ≠ none)
    (visit : Visit kind handler now answer next later) :
    Left kind handler.lifecycle next.lifecycle answer := by
  cases visit with
  | produce _ _ blob =>
      exact left_call still (worked_write _ blob now) (identified_write _ blob now)
  | consume _ _ blob =>
      have admitted : handler.letIn.lifecycle.role ≠ none := role
      exact left_call still (worked_read _ blob now) (identified_read admitted blob now)
  | @process _ _ script bound _ ran =>
      have opening : Handler.takeOver handler now = handler.takeOver now := rfl
      rw [Takeover.run, opening, takeOver, still.enter] at ran
      cases bound with
      | zero => cases ran
      | succ bound =>
          cases ran
          exact .ended rfl (repeats_finished rfl rfl)

theorem inert_of_repeats {mode : Mode} (repeats : handler.lifecycle.Repeats kind mode) :
    Inert ω kind mode handler := by
  cases kind with
  | blob =>
      intro blob surroundings
      have called (work : Envelope → Blob → ω → Turn ω Envelope) :
          handler.call work blob surroundings = ⟨.ok mode, handler, blob, surroundings⟩ := by
        rw [call, repeats]
      exact ⟨called write, called read⟩
  | takeover =>
      intro surroundings
      have opening : Handler.takeOver handler surroundings = handler.takeOver surroundings := rfl
      rw [opening, takeOver, repeats]

theorem begun_init (unused : handler.lifecycle.exchange = none) (identity : Option Identity)
    (role : Role) (surroundings : ω) :
    (handler.init identity role surroundings).handler.lifecycle.Begun := by
  rw [init]
  split
  · exact begun_refuse _ _
  · split
    · exact begun_refuse _ _
    · split
      · exact begun_refuse _ _
      · exact begun_bind unused _ _

theorem begun_initialises (unused : handler.lifecycle.exchange = none)
    (initialised : Initialises handler surroundings next later) : next.lifecycle.Begun := by
  cases initialised with
  | live identity role => exact begun_init unused identity role surroundings
  | declared attributes =>
      have unfolded : Handler.initFrom handler attributes surroundings =
          handler.initFrom attributes surroundings := rfl
      rw [unfolded, initFrom]
      split
      · exact begun_refuse _ _
      · split
        · exact begun_refuse _ _
        · split
          · exact begun_refuse _ _
          · rename_i configured
            split
            · exact begun_refuse _ _
            · have kept := lifecycle_configureProtocols configured
              exact begun_init (by rw [kept, unused]) _ _ surroundings

theorem course_visits {names : List String} {start : Envelope} {answers : List Answer}
    (initialised : Initialises (fresh names) surroundings start later)
    (visits : Visits kind start later answers handler now) :
    handler.lifecycle.Course kind answers := by
  refine Lifecycle.course_visits (fun _ _ => inert_of_repeats) ?_
    (begun_initialises rfl initialised) visits
  exact fun _ still role visit => left_visit still role visit

end Parley.Envelope
