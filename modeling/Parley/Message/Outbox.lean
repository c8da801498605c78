import Parley.Blob
import Parley.Message.Codec

/-!
Outboxes: they cut messages into blobs of any size.
-/

namespace Parley

structure Outbox where
  bytes : Bytes := []
  deriving DecidableEq

namespace Outbox

def isEmpty (outbox : Outbox) : Bool := outbox.bytes.isEmpty

def queue (outbox : Outbox) (message : Message) : Except Fault Outbox :=
  match message.encode with
  | .error fault => .error fault
  | .ok bytes => .ok { bytes := outbox.bytes ++ bytes }

def fill (outbox : Outbox) (blob : Blob) : Outbox × Blob :=
  let (accepted, blob) := blob.write outbox.bytes
  ({ bytes := outbox.bytes.drop accepted }, blob)

theorem contents_fill_append (outbox : Outbox) (blob : Blob) :
    (outbox.fill blob).2.contents ++ (outbox.fill blob).1.bytes =
      blob.contents ++ outbox.bytes := by
  simp only [fill, Blob.contents_write]
  simp only [Blob.write, List.append_assoc, List.append_cancel_left_eq, List.length_take]
  rw [List.take_eq_take_min, List.take_append_drop]

end Outbox

end Parley
