import Parley.Proofs.SharedKey.Reaction

/-! What the work of shared-key handlers does to their lifecycles. -/

namespace Parley.SharedKey

open Lifecycle

variable {κ : Type}

theorem Preparation.worked {handler next : SharedKey} {supplies later : Supplies κ}
    {answer : Answer} (prepared : Preparation handler supplies next later answer) :
    Worked handler.lifecycle next.lifecycle answer := by
  cases prepared with
  | queued _ => exact worked_going rfl (by simp) (by simp)
  | idle reason _ => rcases reason with rfl | rfl <;> exact worked_going rfl (by simp) (by simp)
  | opened _ _ _ => exact worked_going rfl (by simp) (by simp)
  | greeted _ _ _ _ _ _ => exact worked_going rfl (by simp) (by simp)
  | broken _ worked => exact worked

theorem Flush.worked {handler next : SharedKey} {mode : Mode}
    (flushed : Flush handler next mode) :
    Worked handler.lifecycle next.lifecycle (.ok mode) := by
  cases flushed with
  | partly _ => exact worked_going rfl (by simp) (by simp)
  | wholly => exact worked_apply _

theorem Preparation.then_worked {handler next : SharedKey} {supplies later : Supplies κ}
    {after : Lifecycle} {mode : Mode} {answer : Answer}
    (prepared : Preparation handler supplies next later (.ok mode))
    (worked : Worked next.lifecycle after answer) : Worked handler.lifecycle after answer := by
  cases prepared <;> exact worked

theorem worked_welcoming (handler : SharedKey) (user : String) :
    Worked handler.lifecycle (handler.welcoming user) (.ok .pendingData) := by
  rw [welcoming]
  split
  · exact (worked_going rfl (by simp) (by simp)).adopting
  · exact worked_going rfl (by simp) (by simp)

variable [KeyStore κ]

theorem Reaction.worked {handler next : SharedKey} {supplies later : Supplies κ}
    {message : Message} {answer : Answer}
    (reaction : Reaction handler supplies message next later answer) :
    Worked handler.lifecycle next.lifecycle answer := by
  cases reaction with
  | broken worked => exact worked
  | rejected => exact worked_going rfl (by simp) (by simp)
  | waiting _ _ => exact worked_going rfl (by simp) (by simp)
  | challenged _ _ _ _ _ => exact worked_going rfl (by simp) (by simp)
  | accepted _ _ _ _ => exact worked_welcoming handler _
  | aborted => exact worked_fail _
  | unbound _ _ => exact worked_going rfl (by simp) (by simp)

omit [KeyStore κ] in
theorem worked_reply (handler : SharedKey) (message : Message) (settlement : Settlement) :
    Worked handler.lifecycle (handler.reply message settlement).1.lifecycle
      (handler.reply message settlement).2 := by
  rcases reply_cases handler message settlement with ⟨fault, same⟩ | ⟨bytes, _, same⟩
  · rw [same]
    exact worked_broken _
  · rw [same]
    exact worked_going rfl (by simp) (by simp)

omit [KeyStore κ] in
theorem worked_onChallenge (handler : SharedKey) (server : String) (nonce : Bytes)
    (tag : Option Bytes) :
    Worked handler.lifecycle (handler.onChallenge server nonce tag).1.lifecycle
      (handler.onChallenge server nonce tag).2 := by
  simp only [onChallenge]
  split
  · exact worked_broken _
  · split
    · split
      · exact worked_broken _
      · rw [reject]
        exact worked_reply { handler with step := .done } _ _
      · exact worked_reply
          { handler with
            serverNonce := nonce
            peerName := some server
            step := .awaitVerdict } _ _
    · exact worked_going rfl (by simp) (by simp)

omit [KeyStore κ] in
theorem worked_onAcceptance (handler : SharedKey) :
    Worked handler.lifecycle handler.onAcceptance.1.lifecycle handler.onAcceptance.2 := by
  rw [onAcceptance]
  split
  · exact worked_succeed _
  · exact worked_going rfl (by simp) (by simp)

omit [KeyStore κ] in
theorem worked_onClientMessage (handler : SharedKey) (message : Message) :
    Worked handler.lifecycle (handler.onClientMessage message).1.lifecycle
      (handler.onClientMessage message).2 := by
  rw [onClientMessage.eq_def]
  split
  · split
    · exact worked_onChallenge handler _ _ _
    · exact worked_broken _
  · split
    · exact worked_onAcceptance handler
    · exact worked_broken _
  · split
    · exact worked_fail _
    · exact worked_broken _
  · exact worked_broken _

theorem worked_onMessage (handler : SharedKey) (message : Message) (supplies : Supplies κ) :
    Worked handler.lifecycle (handler.onMessage message supplies).1.lifecycle
      (handler.onMessage message supplies).2.2 := by
  rw [onMessage]
  split
  · exact worked_onClientMessage handler message
  · exact (reaction_onServerMessage handler supplies message).worked
  · exact worked_going rfl (by simp) (by simp)

omit [KeyStore κ] in
theorem Writing.worked {handler next : SharedKey} {supplies later : Supplies κ} {answer : Answer}
    (writing : Writing handler supplies next later answer) :
    Worked handler.lifecycle next.lifecycle answer := by
  cases writing with
  | unready prepared _ => exact prepared.worked
  | flushed prepared flushed => exact prepared.then_worked flushed.worked

omit [KeyStore κ] in
theorem lifecycle_nextMessage {handler next : SharedKey} {message : Message}
    (found : handler.nextMessage = .ok (some (message, next))) :
    next.lifecycle = handler.lifecycle := by
  simp only [nextMessage] at found
  split at found
  · cases found
    rfl
  · split at found <;> cases found
    rfl

theorem Reading.worked {handler next : SharedKey} {supplies later : Supplies κ} {bytes : Bytes}
    {answer : Answer} (reading : Reading handler supplies bytes next later answer) :
    Worked handler.lifecycle next.lifecycle answer := by
  cases reading with
  | broken fault => exact worked_broken fault
  | incomplete _ => exact worked_going rfl (by simp) (by simp)
  | @handled message middle _ _ _ _ found handled same =>
      have worked := worked_onMessage middle message supplies
      rw [handled, lifecycle_nextMessage found] at worked
      rcases same with rfl | ⟨rfl, rfl⟩
      · exact worked
      · exact worked.continuing

end Parley.SharedKey
