import Parley.Proofs.Lifecycle.Calls
import Parley.Proofs.SharedKey.Session

/-! What calls of shared-key handlers do to their lifecycles. -/

namespace Parley.SharedKey

open Lifecycle

variable {κ : Type} [KeyStore κ]

theorem unstarted_init (handler : SharedKey) (identity : Option Identity) (role : Role)
    (supplies : Supplies κ) :
    (handler.init identity role supplies).handler.lifecycle.Unstarted := by
  simp only [init]
  split
  · exact unstarted_refuse _ _
  · split
    · exact unstarted_refuse _ _
    · rw [initClient]
      split
      · exact unstarted_bind _ _ _
      · exact unstarted_refuse _ _
      · exact unstarted_refuse _ _
    · exact unstarted_bind _ _ _

theorem unstarted_initFrom (handler : SharedKey) (attributes : Attributes)
    (supplies : Supplies κ) :
    (handler.initFrom attributes supplies).handler.lifecycle.Unstarted := by
  rw [initFrom]
  split
  · exact unstarted_refuse _ _
  · exact unstarted_init _ _ _ _

theorem called_contact {handler next : SharedKey} {supplies later : Supplies κ} {taken : Bytes}
    {answer : Option Answer} (contact : Contact handler supplies taken answer next later) :
    Called handler.lifecycle next.lifecycle answer := by
  cases closing_contact contact with
  | answered entered => exact .answered (entry_enter entered)
  | hung entered session =>
      have entry := entry_enter entered
      obtain ⟨exchanging, face⟩ := entry.exchanging
      obtain ⟨_, stage, credential⟩ := session.kept
      exact .pending entry (by simp) (stage.trans exchanging)
        (credential.trans (congrArg _ face))
  | ended entered session effort same desk consuming =>
      have entry := entry_enter entered
      rcases same with rfl | ⟨fault, rfl⟩
      · obtain ⟨_, stage, credential⟩ := session.kept
        exact called_settle entry stage credential effort.worked
      · exact .broken entry rfl rfl

end Parley.SharedKey
