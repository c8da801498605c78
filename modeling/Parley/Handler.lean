import Parley.Attributes
import Parley.Blob
import Parley.Channel.Frame
import Parley.Lifecycle

/-!
Handlers: what every authentication protocol offers to its driver. A handler is a state `σ` that
draws on surroundings `ω`, such as nonces and keys. Its calls on blobs are answered at once; a
takeover of the channel runs in stretches, each some work of its own and then a dialogue.
-/

namespace Parley

structure Initialised (ω σ : Type) where
  accepted : Bool
  handler : σ
  surroundings : ω

structure Turn (ω σ : Type) where
  answer : Answer
  handler : σ
  blob : Blob
  surroundings : ω

/--
A stretch of a takeover: the handler as it stands while the dialogue runs, and then the handler
after it together with the answer of the call, if the call is over.
-/
structure Stretch (ω σ : Type) where
  handler : σ
  surroundings : ω
  dialogue : Dialogue (σ × Option Answer)

class Handler (ω σ : Type) [HasFace σ] where
  init : σ → Option Identity → Role → ω → Initialised ω σ
  initFrom : σ → Attributes → ω → Initialised ω σ
  /-- Fills a blob with outbound data; a blob left empty means that there is none. -/
  produce : σ → Blob → ω → Turn ω σ
  /-- Takes the unread bytes of a blob, which come from the peer. -/
  consume : σ → Blob → ω → Turn ω σ
  takeOver : σ → ω → Stretch ω σ
  carryOn : σ → ω → Stretch ω σ

namespace Handler

variable {ω σ τ : Type} [HasFace σ] [HasFace τ] [Handler ω σ] [Handler ω τ]

instance : HasFace (σ ⊕ τ) := ⟨fun | .inl handler => face handler | .inr handler => face handler⟩

def mapInitialised {ω σ τ : Type} (inject : σ → τ) (result : Initialised ω σ) :
    Initialised ω τ :=
  { result with handler := inject result.handler }

def mapTurn {ω σ τ : Type} (inject : σ → τ) (turn : Turn ω σ) : Turn ω τ :=
  { turn with handler := inject turn.handler }

def mapStretch {ω σ τ : Type} (inject : σ → τ) (stretch : Stretch ω σ) : Stretch ω τ :=
  { handler := inject stretch.handler
    surroundings := stretch.surroundings
    dialogue := stretch.dialogue.bind fun (handler, answer) => .done (inject handler, answer) }

instance : Handler ω (σ ⊕ τ) where
  init
    | .inl handler, identity, role, surroundings =>
      mapInitialised .inl (init handler identity role surroundings)
    | .inr handler, identity, role, surroundings =>
      mapInitialised .inr (init handler identity role surroundings)
  initFrom
    | .inl handler, attributes, surroundings =>
      mapInitialised .inl (initFrom handler attributes surroundings)
    | .inr handler, attributes, surroundings =>
      mapInitialised .inr (initFrom handler attributes surroundings)
  produce
    | .inl handler, blob, surroundings => mapTurn .inl (produce handler blob surroundings)
    | .inr handler, blob, surroundings => mapTurn .inr (produce handler blob surroundings)
  consume
    | .inl handler, blob, surroundings => mapTurn .inl (consume handler blob surroundings)
    | .inr handler, blob, surroundings => mapTurn .inr (consume handler blob surroundings)
  takeOver
    | .inl handler, surroundings => mapStretch .inl (takeOver handler surroundings)
    | .inr handler, surroundings => mapStretch .inr (takeOver handler surroundings)
  carryOn
    | .inl handler, surroundings => mapStretch .inl (carryOn handler surroundings)
    | .inr handler, surroundings => mapStretch .inr (carryOn handler surroundings)

end Handler

end Parley
