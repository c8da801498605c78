import Parley.Proofs.Lifecycle.Work

/-!
Calls as lifecycles see them. A call is answered at once or let in, and a call that is let in
leaves the handler going, ends it, or breaks it.
-/

namespace Parley.Lifecycle

structure Unstarted (lifecycle : Lifecycle) : Prop where
  stage : lifecycle.stage = .bound ∨ lifecycle.stage = .unbound
  credential : lifecycle.face.credential = none

theorem unstarted_bind (lifecycle : Lifecycle) (identity : Option Identity) (role : Role) :
    (lifecycle.bind identity role).Unstarted := ⟨Or.inl rfl, rfl⟩

theorem unstarted_refuse (lifecycle : Lifecycle) (reason : String) :
    (lifecycle.refuse reason).Unstarted := ⟨Or.inr rfl, rfl⟩

theorem Unstarted.stage_ne {lifecycle : Lifecycle} (unstarted : lifecycle.Unstarted)
    {mode : Mode} : lifecycle.stage ≠ .finished mode := by
  rcases unstarted.stage with stage | stage <;> simp [stage]

inductive Entry (before : Lifecycle) : Lifecycle → Option Answer → Prop
  | unbound (stage : before.stage = .unbound) : Entry before before (some (.ok .noIdentity))
  | mixed (face : Face) (hidden : face = { before.face with credential := none }) :
      Entry before { before with face } (some (.error (.mixedExchange before.face.protocol)))
  | repeated {mode : Mode} (kind : ExchangeKind) (stage : before.stage = .finished mode) :
      Entry before { before with exchange := some kind } (some (.ok mode))
  | opened (kind : ExchangeKind) (stage : before.stage = .bound ∨ before.stage = .exchanging) :
      Entry before { before with exchange := some kind, stage := .exchanging } none

theorem Entry.role {before after : Lifecycle} {answer : Option Answer}
    (entry : Entry before after answer) : after.role = before.role := by
  cases entry with
  | unbound _ => rfl
  | mixed _ hidden =>
      subst hidden
      rfl
  | repeated _ _ => rfl
  | opened _ _ => rfl

theorem Entry.stage {before after : Lifecycle} {answer : Option Answer}
    (entry : Entry before after answer) :
    after.stage = before.stage ∨
      after.stage = .exchanging ∧ (before.stage = .bound ∨ before.stage = .exchanging) := by
  cases entry with
  | unbound _ => exact Or.inl rfl
  | mixed _ _ => exact Or.inl rfl
  | repeated _ _ => exact Or.inl rfl
  | opened _ stage => exact Or.inr ⟨rfl, stage⟩

theorem entry_enter {before after : Lifecycle} {kind : ExchangeKind} {answer : Option Answer}
    (entered : before.enter kind = (after, answer)) : Entry before after answer := by
  simp only [enter] at entered
  split at entered
  · rename_i stage
    cases entered
    exact .unbound stage
  · rename_i bound
    split at entered
    · cases entered
      exact .mixed _ rfl
    · split at entered
      · rename_i stage
        cases entered
        exact .repeated kind stage
      · rename_i unfinished
        cases entered
        refine .opened kind ?_
        rcases stage : before.stage with _ | _ | _ | mode
        · exact absurd stage bound
        · exact Or.inl rfl
        · exact Or.inr rfl
        · exact absurd stage (unfinished mode)

/-- What a call does to a lifecycle, with its answer if there is one. -/
inductive Called (before after : Lifecycle) : Option Answer → Prop
  | answered {answer : Answer} (entry : Entry before after (some answer)) :
      Called before after (some answer)
  | pending {opened : Lifecycle} {answer : Option Answer} (entry : Entry before opened none)
      (unfinished : answer ≠ some (.ok .success)) (stage : after.stage = .exchanging)
      (credential : after.face.credential = before.face.credential) : Called before after answer
  | ended {opened : Lifecycle} {mode : Mode} (entry : Entry before opened none)
      (stage : after.stage = .finished mode)
      (credential : after.face.credential.isSome ↔ mode = .success) :
      Called before after (some (.ok mode))
  | broken {opened : Lifecycle} {fault : Fault} (entry : Entry before opened none)
      (stage : after.stage = .finished .failed) (credential : after.face.credential = none) :
      Called before after (some (.error fault))

theorem Entry.exchanging {before opened : Lifecycle} (entry : Entry before opened none) :
    opened.stage = .exchanging ∧ opened.face = before.face := by
  cases entry
  exact ⟨rfl, rfl⟩

theorem called_settle {before opened going worked : Lifecycle} {answer : Answer}
    (entry : Entry before opened none) (stage : going.stage = opened.stage)
    (credential : going.face.credential = opened.face.credential)
    (work : Worked going worked answer) : Called before (worked.settle answer) (some answer) := by
  obtain ⟨exchanging, face⟩ := entry.exchanging
  rcases work.leaves with ⟨goes, _, _, kept, same⟩ | ⟨final, ending, shown⟩ | ⟨kept, same⟩
  · refine .pending entry ?_ ((kept.trans stage).trans exchanging)
      ((same.trans credential).trans (congrArg _ face))
    rintro success
    cases success
    cases goes
  · exact .ended entry ending shown
  · exact .broken entry rfl rfl

end Parley.Lifecycle
