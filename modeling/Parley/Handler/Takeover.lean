import Parley.Channel.Script
import Parley.Handler

/-!
Takeovers on scripted channels: one call of a handler that drives the channel itself, from its
opening to its answer.
-/

namespace Parley

/--
What a takeover has come to. Without an answer it waits for a read that never returns, and the
handler is as it stands while it waits.
-/
structure Takeover (ω σ : Type) where
  answer : Option Answer
  handler : σ
  surroundings : ω
  script : Script

namespace Takeover

variable {ω σ : Type} [HasFace σ] [Handler ω σ]

/-- Plays stretches until the call is over; nothing means that the bound on them is too small. -/
def follow : Nat → Stretch ω σ → Script → Option (Takeover ω σ)
  | 0, _, _ => none
  | bound + 1, stretch, script =>
    match script.play stretch.dialogue with
    | (none, script) => some ⟨none, stretch.handler, stretch.surroundings, script⟩
    | (some (handler, some answer), script) =>
      some ⟨some answer, handler, stretch.surroundings, script⟩
    | (some (handler, none), script) =>
      follow bound (Handler.carryOn handler stretch.surroundings) script

def run (bound : Nat) (handler : σ) (surroundings : ω) (script : Script) :
    Option (Takeover ω σ) :=
  follow bound (Handler.takeOver handler surroundings) script

end Takeover

end Parley
