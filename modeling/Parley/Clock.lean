/-!
Clocks, by which a negotiation pauses. Times are in milliseconds.
-/

namespace Parley

/-- When a pause ends that begins at a time and is to last for so long. -/
structure Clock where
  wake : Nat → Nat → Nat
  le_wake : ∀ now length, now ≤ wake now length

def Clock.punctual : Clock := ⟨(· + ·), Nat.le_add_right⟩

end Parley
