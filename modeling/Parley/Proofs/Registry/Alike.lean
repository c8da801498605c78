import Parley.Registry

/-!
Registries that make the same handlers from now on, however many each has made already.
-/

namespace Parley

variable {σ : Type}

/-- Factories that make the same handlers from now on. -/
def Factory.Alike (first second : Factory σ) : Prop :=
  ∀ number, first.make (first.made + number) = second.make (second.made + number)

namespace Registry

def Alike (first second : Registry σ) : Prop :=
  ∀ name, Option.Rel Factory.Alike (first.factories.get? name) (second.factories.get? name)

variable {first second : Registry σ}

theorem Alike.refl (registry : Registry σ) : Alike registry registry := by
  intro name
  cases registry.factories.get? name with
  | none => exact .none
  | some factory => exact .some fun _ => rfl

theorem Alike.contains (alike : Alike first second) (name : String) :
    first.contains name = second.contains name := by
  have same := alike name
  simp only [Registry.contains, Dictionary.contains]
  revert same
  generalize first.factories.get? name = one
  generalize second.factories.get? name = other
  rintro (_ | _) <;> rfl

variable [HasFace σ]

theorem create_of_get? {registry : Registry σ} {name : String} {factory : Factory σ}
    (found : registry.factories.get? name = some factory) :
    registry.create name =
      (if (face (factory.make factory.made)).protocol = name then
        .ok (factory.make factory.made)
      else .error (.registryMismatch name (face (factory.make factory.made)).protocol),
      { factories := registry.factories.insert name { factory with made := factory.made + 1 } }) := by
  rw [create, found]
  dsimp only
  split <;> rfl

theorem create_of_get?_none {registry : Registry σ} {name : String}
    (missing : registry.factories.get? name = none) :
    registry.create name = (.error (.unknownProtocol name), registry) := by
  rw [create, missing]

theorem create_constant {registry : Registry σ} {name : String} {handler : σ}
    (named : (face handler).protocol = name)
    (constant : ∀ factory, registry.factories.get? name = some factory →
      ∀ number, factory.make number = handler) :
    (registry.create name).1 = .error (.unknownProtocol name) ∨
      (registry.create name).1 = .ok handler := by
  rcases found : registry.factories.get? name with _ | factory
  · exact Or.inl (congrArg Prod.fst (create_of_get?_none found))
  · refine Or.inr ?_
    rw [create_of_get? found, constant factory found, if_pos named]

theorem Alike.create (alike : Alike first second) (name : String) :
    (first.create name).1 = (second.create name).1 ∧
      Alike (first.create name).2 (second.create name).2 := by
  have same := alike name
  rcases found : first.factories.get? name with _ | factory
  · rcases otherFound : second.factories.get? name with _ | other
    · rw [create_of_get?_none found, create_of_get?_none otherFound]
      exact ⟨rfl, alike⟩
    · rw [found, otherFound] at same
      cases same
  · rcases otherFound : second.factories.get? name with _ | other
    · rw [found, otherFound] at same
      cases same
    · rw [found, otherFound] at same
      rw [create_of_get? found, create_of_get? otherFound]
      cases same with
      | some makes =>
          have made : factory.make factory.made = other.make other.made := makes 0
          constructor
          · rw [made]
          · intro asked
            simp only [Dictionary.get?_insert]
            split
            · constructor
              intro number
              have next := makes (1 + number)
              rwa [← Nat.add_assoc, ← Nat.add_assoc] at next
            · exact alike asked

/-- A factory that makes the same handler every time is none the worse for having made one. -/
theorem Alike.create_left (alike : Alike first second) {name : String} {handler : σ}
    (constant : ∀ factory, first.factories.get? name = some factory →
      ∀ number, factory.make number = handler) :
    Alike (first.create name).2 second := by
  rcases found : first.factories.get? name with _ | factory
  · rw [create_of_get?_none found]
    exact alike
  · rw [create_of_get? found]
    intro asked
    simp only [Dictionary.get?_insert]
    split
    · rename_i same
      subst same
      have related := alike asked
      rw [found] at related
      have makes := constant factory found
      revert related
      generalize second.factories.get? asked = kept
      rintro ⟨related⟩
      refine .some fun number => ?_
      exact ((makes _).trans (makes _).symm).trans (related number)
    · exact alike asked

end Registry

end Parley
