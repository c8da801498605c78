import Parley.Proofs.Registry.Alike

/-!
What registries have made. A registry that has made handlers for some names still gives what it gave
at first for all the other ones.
-/

namespace Parley

namespace Registry

variable {σ : Type} {names : List String} {first now : Registry σ} {name : String}

/-- A registry by the time it has made one more handler for each of these names. -/
def Drawn (first : Registry σ) (names : List String) (now : Registry σ) : Prop :=
  ∀ name, now.factories.get? name = (first.factories.get? name).map fun factory =>
    { factory with made := factory.made + names.count name }

theorem drawn_nil (registry : Registry σ) : registry.Drawn [] registry := by
  intro name
  cases registry.factories.get? name <;> rfl

theorem Drawn.trans {more : List String} {last : Registry σ} (drawn : first.Drawn names now)
    (further : now.Drawn more last) : first.Drawn (names ++ more) last := by
  intro name
  rw [further name, drawn name, Option.map_map]
  refine congrArg (Option.map · _) (funext fun factory => ?_)
  simp only [Function.comp_apply, List.count_append, Nat.add_assoc]

theorem Drawn.contains (drawn : first.Drawn names now) (name : String) :
    now.contains name = first.contains name := by
  rw [Registry.contains, Dictionary.contains, drawn name, Option.isSome_map]
  rfl

variable [HasFace σ]

theorem Drawn.create (drawn : first.Drawn names now) (name : String) :
    first.Drawn (names ++ [name]) (now.create name).2 := by
  intro other
  have before := drawn other
  rcases found : now.factories.get? name with _ | factory
  · rw [create_of_get?_none found]
    by_cases same : other = name
    · subst same
      rw [found] at before ⊢
      rw [Option.map_eq_none_iff.mp before.symm]
      rfl
    · rw [before, List.count_append, List.count_singleton]
      simp [Ne.symm same]
  · rw [create_of_get? found]
    dsimp only
    rw [Dictionary.get?_insert]
    by_cases same : other = name
    · subst same
      rw [if_pos rfl, List.count_append, List.count_singleton_self]
      rw [found] at before
      obtain ⟨fresh, atFirst, rfl⟩ := Option.map_eq_some_iff.mp before.symm
      rw [atFirst]
      rfl
    · rw [if_neg same, before, List.count_append, List.count_singleton]
      simp [Ne.symm same]

theorem Drawn.create_fst (drawn : first.Drawn names now) (fresh : name ∉ names) :
    (now.create name).1 = (first.create name).1 := by
  have same : now.factories.get? name = first.factories.get? name := by
    rw [drawn name, List.count_eq_zero_of_not_mem fresh]
    cases first.factories.get? name <;> rfl
  rcases found : first.factories.get? name with _ | factory
  · rw [create_of_get?_none found, create_of_get?_none (same.trans found)]
  · rw [create_of_get? found, create_of_get? (same.trans found)]

theorem Drawn.create_constant {handler : σ} (drawn : first.Drawn names now)
    (constant : first.factories.get? name = some (.constant handler))
    (named : (face handler).protocol = name) : (now.create name).1 = .ok handler := by
  have found := drawn name
  rw [constant, Option.map_some] at found
  rw [create_of_get? found]
  exact if_pos named

theorem protocol_of_create {handler : σ} (made : (first.create name).1 = .ok handler) :
    (face handler).protocol = name := by
  rcases found : first.factories.get? name with _ | factory
  · rw [create_of_get?_none found] at made
    cases made
  · rw [create_of_get? found] at made
    dsimp only at made
    split at made
    · rename_i stated
      cases made
      exact stated
    · cases made

theorem create_fault {fault : Fault} (failed : (first.create name).1 = .error fault) :
    (first.contains name = false ∧ (first.create name).2 = first) ∨
      ∃ stated, fault = .registryMismatch name stated := by
  rcases found : first.factories.get? name with _ | factory
  · rw [Registry.contains, Dictionary.contains, found, create_of_get?_none found]
    exact Or.inl ⟨rfl, rfl⟩
  · rw [create_of_get? found] at failed
    dsimp only at failed
    split at failed
    · cases failed
    · cases failed
      exact Or.inr ⟨_, rfl⟩

end Registry

end Parley
