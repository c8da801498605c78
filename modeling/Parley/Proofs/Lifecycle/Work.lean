import Parley.Lifecycle

/-!
What calls do to lifecycles. The work of an open call either leaves the handler going or ends it,
and only an end in success leaves a credential.
-/

namespace Parley

def Mode.isFinal : Mode → Bool
  | .success | .failed | .delegated => true
  | _ => false

def Mode.goesOn : Mode → Bool
  | .needData | .pendingData | .continue => true
  | _ => false

namespace Lifecycle

/-- How the work of an open call leaves a lifecycle, with its answer. -/
inductive Leaves (before after : Lifecycle) : Answer → Prop
  | going {mode : Mode} (goes : mode.isFinal = false) (supported : mode ≠ .notSupported)
      (more : mode ≠ .noMoreData) (stage : after.stage = before.stage)
      (credential : after.face.credential = before.face.credential) : Leaves before after (.ok mode)
  | ended {mode : Mode} (final : mode.isFinal = true) (stage : after.stage = .finished mode)
      (credential : after.face.credential.isSome ↔ mode = .success) : Leaves before after (.ok mode)
  | broken {fault : Fault} (stage : after.stage = before.stage)
      (credential : after.face.credential = before.face.credential) :
      Leaves before after (.error fault)

structure Worked (before after : Lifecycle) (answer : Answer) : Prop where
  protocol : after.face.protocol = before.face.protocol
  role : after.role = before.role
  exchange : after.exchange = before.exchange
  leaves : Leaves before after answer

variable {before after : Lifecycle}

theorem worked_going {mode : Mode} (goes : mode.isFinal = false) (supported : mode ≠ .notSupported)
    (more : mode ≠ .noMoreData) : Worked before before (.ok mode) :=
  ⟨rfl, rfl, rfl, .going goes supported more rfl rfl⟩

theorem worked_broken (fault : Fault) : Worked before before (.error fault) :=
  ⟨rfl, rfl, rfl, .broken rfl rfl⟩

theorem worked_fail (reason : String) : Worked before (before.fail reason) (.ok .failed) :=
  ⟨rfl, rfl, rfl, .ended rfl rfl (by simp [fail, finish])⟩

theorem worked_succeed (credential : Credential) :
    Worked before (before.succeed credential) (.ok .success) :=
  ⟨rfl, rfl, rfl, .ended rfl rfl (by simp [succeed, finish])⟩

theorem worked_delegate (successor : String) :
    Worked before (before.delegate successor) (.ok .delegated) :=
  ⟨rfl, rfl, rfl, .ended rfl rfl (by simp [delegate, finish])⟩

theorem worked_apply (settlement : Settlement) :
    Worked before (before.apply settlement).1 (.ok (before.apply settlement).2) := by
  cases settlement with
  | await => exact worked_going rfl (by simp [apply]) (by simp [apply])
  | succeed credential => exact worked_succeed credential
  | fail reason => exact worked_fail reason
  | delegate successor => exact worked_delegate successor

theorem Worked.adopting {answer : Answer} {identity : Identity}
    (worked : Worked (before.adopt identity) after answer) : Worked before after answer := by
  refine ⟨worked.protocol, worked.role, worked.exchange, ?_⟩
  rcases worked.leaves with ⟨goes, supported, more, stage, credential⟩ |
    ⟨final, stage, credential⟩ | ⟨stage, credential⟩
  · exact .going goes supported more stage credential
  · exact .ended final stage credential
  · exact .broken stage credential

theorem Worked.kept_of_going {mode : Mode} (worked : Worked before after (.ok mode))
    (goes : mode.isFinal = false) :
    after.stage = before.stage ∧ after.face.credential = before.face.credential := by
  rcases worked.leaves with ⟨_, _, _, stage, credential⟩ | ⟨final, _, _⟩
  · exact ⟨stage, credential⟩
  · rw [goes] at final
    cases final

theorem Worked.continuing (worked : Worked before after (.ok .needData)) :
    Worked before after (.ok .continue) := by
  obtain ⟨stage, credential⟩ := worked.kept_of_going rfl
  exact ⟨worked.protocol, worked.role, worked.exchange,
    .going rfl (by simp) (by simp) stage credential⟩

end Lifecycle

end Parley
