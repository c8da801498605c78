import Parley.Blob
import Parley.Message.Codec

/-!
Inboxes: they put messages together from blobs of any size.
-/

namespace Parley

structure Inbox where
  bytes : Bytes := []
  deriving DecidableEq

namespace Inbox

def isEmpty (inbox : Inbox) : Bool := inbox.bytes.isEmpty

def absorb (inbox : Inbox) (blob : Blob) : Inbox × Blob :=
  let (bytes, blob) := blob.takeUnread
  ({ bytes := inbox.bytes ++ bytes }, blob)

/--
The next message and what is left after it, or nothing while it is incomplete. A fault leaves the
inbox as it is.
-/
def next (inbox : Inbox) : Except Fault (Option (Message × Inbox)) :=
  match inbox.bytes with
  | high :: low :: rest =>
    let length := Bytes.number [high, low]
    if longestBody < length then .error (.malformed (.longDeclaredBody length))
    else if rest.length < length then .ok none
    else
      match Message.decode (rest.take length) with
      | .error fault => .error fault
      | .ok message => .ok (some (message, { bytes := rest.drop length }))
  | _ => .ok none

theorem bytes_absorb (inbox : Inbox) (blob : Blob) :
    (inbox.absorb blob).1.bytes = inbox.bytes ++ blob.contents.drop blob.position := rfl

theorem unread_absorb (inbox : Inbox) (blob : Blob) : (inbox.absorb blob).2.unread = 0 := by
  simp [absorb, Blob.takeUnread, Blob.unread]

end Inbox

end Parley
