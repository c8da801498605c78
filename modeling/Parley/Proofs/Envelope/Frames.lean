import Parley.Envelope
import Parley.Proofs.Handler.Frames
import Parley.Proofs.Message.Blobs
import Parley.Proofs.Message.Length
import Parley.Proofs.Message.RoundTrip

/-!
The envelope in frames. Its server offers, its client chooses, each in one message of as many frames
as it takes, and what the server offers the client can always choose from.
-/

namespace Parley.Envelope

variable {ω : Type} {handler : Envelope} {blob : Blob} {now : ω} {capacity : Nat}
  {message : Message} {bytes : Bytes} {settlement : Settlement}

structure Engaged (handler : Envelope) : Prop where
  stage : handler.lifecycle.stage = .exchanging
  exchange : handler.lifecycle.exchange = some .blob

def receiving (handler : Envelope) (bytes : Bytes) : Envelope :=
  { handler with inbox := ⟨handler.inbox.bytes ++ bytes⟩ }

def sending (handler : Envelope) (settlement : Settlement) (left : Bytes) : Envelope :=
  { handler with outbox := ⟨left⟩, afterSend := some settlement }

def sent (handler : Envelope) (settlement : Settlement) : Envelope :=
  { handler with
    outbox := {}
    afterSend := none
    lifecycle := (handler.lifecycle.apply settlement).1 }

theorem receiving_nil (handler : Envelope) : handler.receiving [] = handler := by
  rw [receiving, List.append_nil]

theorem receiving_receiving (handler : Envelope) (first second : Bytes) :
    (handler.receiving first).receiving second = handler.receiving (first ++ second) := by
  simp only [receiving, List.append_assoc]

theorem Engaged.enter (engaged : Engaged handler) :
    handler.lifecycle.enter .blob = (handler.lifecycle, none) := by
  rcases handler with ⟨⟨face, stage, exchange⟩⟩
  obtain ⟨rfl, rfl⟩ := engaged
  rfl

theorem Engaged.produce (engaged : Engaged handler) :
    Handler.produce handler blob now =
      { handler.write blob now with
        handler := (handler.write blob now).handler.settle (handler.write blob now).answer } := by
  have called : Handler.produce handler blob now = call write handler blob now := rfl
  rw [called, call, engaged.enter]

theorem Engaged.consume (engaged : Engaged handler) :
    Handler.consume handler blob now =
      { handler.read blob now with
        handler := (handler.read blob now).handler.settle (handler.read blob now).answer } := by
  have called : Handler.consume handler blob now = call read handler blob now := rfl
  rw [called, call, engaged.enter]

theorem write_sending (handler : Envelope) (left : Bytes) :
    (handler.sending settlement left).write blob now =
      ⟨.ok ((handler.sending settlement left).flush blob).2.2,
        ((handler.sending settlement left).flush blob).1,
        ((handler.sending settlement left).flush blob).2.1, now⟩ := by
  have prepared : (handler.sending settlement left).prepare =
      (handler.sending settlement left, .ok .pendingData) := by
    simp [prepare, sending]
  rw [write, prepared]

theorem Engaged.drains (engaged : Engaged handler) (settlement : Settlement) (now : ω) :
    Drains capacity (handler.lifecycle.apply settlement).2 (handler.sent settlement) now
      (handler.sending settlement) := by
  have engaged (left : Bytes) : Engaged (handler.sending settlement left) :=
    ⟨engaged.stage, engaged.exchange⟩
  constructor
  · rintro left exceeds blob rfl
    obtain ⟨filled, contents, kept⟩ := Outbox.fill_clear left blob
    have someLeft : (left.drop blob.capacity).isEmpty = false := by
      rw [List.isEmpty_eq_false_iff, ← List.length_pos_iff, List.length_drop]
      omega
    refine ⟨_, contents, kept, ?_⟩
    rw [(engaged left).produce, write_sending]
    simp only [flush, sending, filled, Outbox.isEmpty, someLeft, Bool.false_eq_true, if_false]
    rfl
  · rintro left fits blob rfl
    obtain ⟨filled, contents, kept⟩ := Outbox.fill_clear left blob
    rw [List.drop_of_length_le fits] at filled
    rw [List.take_of_length_le fits] at contents
    refine ⟨_, contents, kept, ?_⟩
    rw [(engaged left).produce, write_sending]
    simp only [flush, sending, filled, Outbox.isEmpty, List.isEmpty_nil, if_true, Option.getD_some]
    rfl

theorem Engaged.gathers (engaged : Engaged handler) (empty : handler.inbox = {})
    (encoded : message.encode = .ok bytes) :
    Gathers capacity bytes (fun now mode next later =>
      handler.onMessage message = (next, .ok mode) ∧ later = (now : ω)) handler.receiving := by
  have engaged (got : Bytes) : Engaged (handler.receiving got) :=
    ⟨engaged.stage, engaged.exchange⟩
  have absorbed (got : Bytes) {blob : Blob} {frame : Bytes} (short : frame.length ≤ blob.capacity) :
      (handler.receiving got).inbox.absorb (blob.load frame) =
        (⟨got ++ frame⟩, (blob.load frame).taken) := by
    have unread := Blob.unread_load short
    simp only [Inbox.absorb, Blob.takeUnread, receiving, empty, List.nil_append, unread]
    rfl
  constructor
  · rintro now got frame missing split someMissing short blob rfl
    refine ⟨(blob.load frame).taken, Blob.capacity_load blob frame, ?_⟩
    have nothing : Inbox.next ⟨got ++ frame⟩ = .ok none :=
      Inbox.next_part encoded split someMissing
    rw [(engaged got).consume]
    simp only [read, absorbed got short, nothing]
    rw [← receiving_receiving]
    simp only [receiving, empty, List.nil_append]
    rfl
  · rintro now later mode next got frame split short ⟨handled, rfl⟩ blob rfl
    refine ⟨(blob.load frame).taken, Blob.capacity_load blob frame, ?_⟩
    have complete : Inbox.next ⟨got ++ frame⟩ = .ok (some (message, {})) := by
      have found := Inbox.next_encode encoded []
      rwa [List.append_nil, split] at found
    have same : { handler.receiving got with inbox := {} } = handler := by
      simp only [receiving, ← empty]
    rw [(engaged got).consume]
    simp only [read, absorbed got short, complete, same, handled]
    rfl

end Parley.Envelope
