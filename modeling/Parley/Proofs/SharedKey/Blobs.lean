import Parley.Proofs.Message.Blobs
import Parley.Proofs.SharedKey.Reaction

/-!
Calls on blobs in the middle of an exchange: a handler that has something to send fills the blob
with as much of it as there is room for, and one that has nothing to say yet takes what it is given.
-/

namespace Parley.SharedKey

variable {κ : Type} [KeyStore κ]

structure Engaged (handler : SharedKey) : Prop where
  stage : handler.lifecycle.stage = .exchanging
  exchange : handler.lifecycle.exchange = some .blob

def sending (handler : SharedKey) (settlement : Settlement) (left : Bytes) : SharedKey :=
  { handler with outbox := ⟨left⟩, afterSend := some settlement }

def sent (handler : SharedKey) (settlement : Settlement) : SharedKey :=
  { handler with
    outbox := ⟨[]⟩
    afterSend := none
    lifecycle := (handler.lifecycle.apply settlement).1 }

theorem receiving_nil (handler : SharedKey) : handler.receiving [] = handler := by
  rw [receiving, List.append_nil]

theorem receiving_receiving (handler : SharedKey) (first second : Bytes) :
    (handler.receiving first).receiving second = handler.receiving (first ++ second) := by
  simp only [receiving, List.append_assoc]

variable {handler : SharedKey} {blob : Blob} {supplies : Supplies κ}

omit [KeyStore κ] in
theorem Engaged.enter (engaged : Engaged handler) :
    handler.lifecycle.enter .blob = (handler.lifecycle, none) := by
  rcases handler with ⟨⟨face, stage, exchange⟩⟩
  obtain ⟨rfl, rfl⟩ := engaged
  simp [Lifecycle.enter]

omit [KeyStore κ] in
theorem Engaged.receiving (engaged : Engaged handler) (bytes : Bytes) :
    Engaged (handler.receiving bytes) :=
  ⟨engaged.stage, engaged.exchange⟩

omit [KeyStore κ] in
theorem Engaged.sending (engaged : Engaged handler)
    (settlement : Settlement) (left : Bytes) : Engaged (handler.sending settlement left) :=
  ⟨engaged.stage, engaged.exchange⟩

theorem produce_engaged (engaged : Engaged handler) :
    Handler.produce handler blob supplies =
      { handler.write blob supplies with
        handler := (handler.write blob supplies).handler.settle
          (handler.write blob supplies).answer } := by
  have called : Handler.produce handler blob supplies = call write handler blob supplies := rfl
  rw [called, call, engaged.enter]

theorem consume_engaged (engaged : Engaged handler) :
    Handler.consume handler blob supplies =
      { handler.read blob supplies with
        handler := (handler.read blob supplies).handler.settle
          (handler.read blob supplies).answer } := by
  have called : Handler.consume handler blob supplies = call read handler blob supplies := rfl
  rw [called, call, engaged.enter]

omit [KeyStore κ] in
theorem write_queued {settlement : Settlement} (queued : handler.afterSend = some settlement) :
    handler.write blob supplies =
      ⟨.ok (handler.flush blob).2.2, (handler.flush blob).1, (handler.flush blob).2.1, supplies⟩ := by
  have prepared : handler.prepare supplies = (handler, supplies, .ok .pendingData) := by
    rw [prepare, queued, Option.isSome_some, Bool.or_true, if_pos rfl]
  rw [write, prepared]

theorem produce_rest {left : Bytes} {settlement : Settlement} (engaged : Engaged handler)
    (outbox : handler.outbox = ⟨left⟩) (queued : handler.afterSend = some settlement)
    (fits : left.length ≤ blob.capacity) :
    Handler.produce handler blob.clear supplies =
      ⟨.ok (handler.lifecycle.apply settlement).2,
        { handler with
          outbox := ⟨[]⟩
          afterSend := none
          lifecycle := (handler.lifecycle.apply settlement).1 },
        (Outbox.fill ⟨left⟩ blob.clear).2, supplies⟩ := by
  have filled := (Outbox.fill_clear left blob).1
  rw [List.drop_of_length_le fits] at filled
  rw [produce_engaged engaged, write_queued queued, flush, outbox]
  revert filled
  generalize Outbox.fill ⟨left⟩ blob.clear = result
  rintro filled
  simp only [filled, Outbox.isEmpty, List.isEmpty_nil, if_true, queued, Option.getD_some]
  rfl

theorem produce_part {left : Bytes} {settlement : Settlement} (engaged : Engaged handler)
    (outbox : handler.outbox = ⟨left⟩) (queued : handler.afterSend = some settlement)
    (exceeds : blob.capacity < left.length) :
    Handler.produce handler blob.clear supplies =
      ⟨.ok .continue, { handler with outbox := ⟨left.drop blob.capacity⟩ },
        (Outbox.fill ⟨left⟩ blob.clear).2, supplies⟩ := by
  have filled := (Outbox.fill_clear left blob).1
  have someLeft : (left.drop blob.capacity).isEmpty = false := by
    rw [List.isEmpty_eq_false_iff]
    intro noneLeft
    have length := congrArg List.length noneLeft
    rw [List.length_drop, List.length_nil] at length
    omega
  rw [produce_engaged engaged, write_queued queued, flush, outbox]
  revert filled
  generalize Outbox.fill ⟨left⟩ blob.clear = result
  rintro filled
  simp only [filled, Outbox.isEmpty, someLeft, Bool.false_eq_true, if_false]
  rfl

theorem consume_part {bytes : Bytes} (engaged : Engaged handler)
    (given : blob.contents.drop blob.position = bytes)
    (nothing : (handler.receiving bytes).nextMessage = .ok none) :
    Handler.consume handler blob supplies =
      ⟨.ok .needData, handler.receiving bytes, blob.taken, supplies⟩ := by
  have received : { handler with inbox := (handler.inbox.absorb blob).1 } =
      handler.receiving bytes := by rw [← given]; rfl
  rw [consume_engaged engaged]
  simp only [read]
  rw [received, nothing]
  rfl

theorem consume_answer {bytes : Bytes} {message : Message} {next last : SharedKey}
    {later : Supplies κ} {answer : Answer} (engaged : Engaged handler)
    (given : blob.contents.drop blob.position = bytes)
    (found : (handler.receiving bytes).nextMessage = .ok (some (message, next)))
    (handled : next.onMessage message supplies = (last, later, answer))
    (more : answer ≠ .ok .needData) :
    Handler.consume handler blob supplies = ⟨answer, last.settle answer, blob.taken, later⟩ := by
  have received : { handler with inbox := (handler.inbox.absorb blob).1 } =
      handler.receiving bytes := by rw [← given]; rfl
  rw [consume_engaged engaged]
  simp only [read]
  rw [received, found]
  simp only [handled]
  rfl

theorem consume_message {bytes : Bytes} {message : Message} {next last : SharedKey}
    {later : Supplies κ} {mode : Mode} (engaged : Engaged handler)
    (given : blob.contents.drop blob.position = bytes)
    (found : (handler.receiving bytes).nextMessage = .ok (some (message, next)))
    (handled : next.onMessage message supplies = (last, later, .ok mode))
    (more : mode ≠ .needData) :
    Handler.consume handler blob supplies = ⟨.ok mode, last, blob.taken, later⟩ :=
  consume_answer engaged given found handled fun same => more (Except.ok.inj same)

end Parley.SharedKey
