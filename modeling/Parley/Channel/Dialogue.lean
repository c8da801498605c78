import Parley.Fault

/-!
Dialogues: finite stretches of channel work. A dialogue says what it writes and how much it reads,
and goes on with what the channel answers; what carries it out is a matter of the channel.
-/

namespace Parley

/-- A stretch of reading from and writing to a channel that ends in a value. -/
inductive Dialogue (α : Type) where
  | done (value : α)
  | write (bytes : Bytes) (next : Except TransportError Unit → Dialogue α)
  /-- Read at least one byte and at most the limit; no bytes mean that the peer has closed. -/
  | read (limit : Nat) (next : Except TransportError Bytes → Dialogue α)

namespace Dialogue

def bind {α β : Type} : Dialogue α → (α → Dialogue β) → Dialogue β
  | .done value, further => further value
  | .write bytes next, further => .write bytes fun answer => (next answer).bind further
  | .read limit next, further => .read limit fun answer => (next answer).bind further

instance : Monad Dialogue where
  pure := .done
  bind := bind

end Dialogue

end Parley
