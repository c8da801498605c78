import Parley.Proofs.Registry.Drawn

/-!
The registry that the library provides. However many handlers it has made, it makes the built-in one
for the name of each built-in protocol.
-/

namespace Parley.Registry

def Stocked (registry : Registry BuiltIn) : Prop := ∃ names, standard.Drawn names registry

theorem stocked_standard : standard.Stocked := ⟨[], drawn_nil standard⟩

variable {registry : Registry BuiltIn}

theorem Stocked.create (stocked : registry.Stocked) (name : String) :
    (registry.create name).2.Stocked := by
  obtain ⟨names, drawn⟩ := stocked
  exact ⟨names ++ [name], drawn.create name⟩

theorem Stocked.contains (stocked : registry.Stocked) (variant : Variant) :
    registry.contains variant.protocol = true := by
  obtain ⟨names, drawn⟩ := stocked
  rw [drawn.contains]
  cases variant <;> rfl

theorem Stocked.create_sharedKey (stocked : registry.Stocked) (variant : Variant) :
    (registry.create variant.protocol).1 = .ok (.inl (SharedKey.fresh variant)) := by
  obtain ⟨names, drawn⟩ := stocked
  refine drawn.create_constant ?_ rfl
  cases variant <;> rfl

def offered : List String := ["p9sk1", "p9sk2"]

theorem Stocked.create_envelope (stocked : registry.Stocked) :
    (registry.create Envelope.protocol).1 = .ok (.inr (Envelope.fresh offered)) := by
  obtain ⟨names, drawn⟩ := stocked
  exact drawn.create_constant rfl rfl

end Parley.Registry
