import Parley.Proofs.Handler.Frames
import Parley.Proofs.Message.RoundTrip
import Parley.Proofs.SharedKey.Blobs

/-! Shared-key handlers in the middle of an exchange send and take their messages in frames. -/

namespace Parley.SharedKey

variable {κ : Type} [KeyStore κ] {handler : SharedKey} {capacity : Nat} {message : Message}
  {bytes got frame missing : Bytes}

theorem nextMessage_part (quiet : handler.deferred = none) (empty : handler.inbox = {})
    (encoded : message.encode = .ok bytes) (split : bytes = got ++ frame ++ missing)
    (someMissing : missing ≠ []) :
    ((handler.receiving got).receiving frame).nextMessage = .ok none := by
  have part := Inbox.next_part encoded split someMissing
  rw [receiving_receiving]
  simp [nextMessage, receiving, quiet, empty, part]

theorem nextMessage_whole (quiet : handler.deferred = none) (empty : handler.inbox = {})
    (encoded : message.encode = .ok bytes) (whole : bytes = got ++ frame) :
    ((handler.receiving got).receiving frame).nextMessage = .ok (some (message, handler)) := by
  have complete := Inbox.next_encode encoded []
  have same : { handler with inbox := ⟨[]⟩, deferred := none } = handler := by rw [← empty, ← quiet]
  rw [List.append_nil, whole] at complete
  rw [receiving_receiving]
  simp [nextMessage, receiving, quiet, empty, complete, same]

theorem Engaged.drains (engaged : Engaged handler) (settlement : Settlement) (now : Supplies κ) :
    Drains capacity (handler.lifecycle.apply settlement).2 (handler.sent settlement) now
      (handler.sending settlement) := by
  constructor
  · rintro left exceeds blob rfl
    obtain ⟨_, contents, kept⟩ := Outbox.fill_clear left blob
    exact ⟨_, contents, kept, produce_part (engaged.sending settlement left) rfl rfl exceeds⟩
  · rintro left fits blob rfl
    obtain ⟨_, contents, kept⟩ := Outbox.fill_clear left blob
    rw [List.take_of_length_le fits] at contents
    exact ⟨_, contents, kept, produce_rest (engaged.sending settlement left) rfl rfl fits⟩

def Answers (handler : SharedKey) (message : Message) (now : Supplies κ) (mode : Mode)
    (next : SharedKey) (later : Supplies κ) : Prop :=
  handler.onMessage message now = (next, later, .ok mode) ∧ mode ≠ .needData

theorem Engaged.gathers (engaged : Engaged handler) (quiet : handler.deferred = none)
    (empty : handler.inbox = {}) (encoded : message.encode = .ok bytes) :
    Gathers (ω := Supplies κ) capacity bytes (handler.Answers message) handler.receiving := by
  constructor
  · rintro now got frame missing split someMissing short blob rfl
    have consumed : Handler.consume (handler.receiving got) (blob.load frame) now = _ :=
      consume_part (engaged.receiving got) (Blob.unread_load short)
        (nextMessage_part quiet empty encoded split someMissing)
    rw [receiving_receiving] at consumed
    exact ⟨(blob.load frame).taken, Blob.capacity_load blob frame, consumed⟩
  · rintro now later mode next got frame split short ⟨handled, more⟩ blob rfl
    have consumed := consume_message (engaged.receiving got) (Blob.unread_load short)
      (nextMessage_whole quiet empty encoded split) handled more
    exact ⟨(blob.load frame).taken, Blob.capacity_load blob frame, consumed⟩

end Parley.SharedKey
