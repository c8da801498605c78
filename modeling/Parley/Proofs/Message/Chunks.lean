import Parley.Proofs.Message.Blobs
import Parley.Proofs.Message.Reassembly
import Parley.Proofs.Message.RoundTrip

/-!
Chunks. However messages are queued in an outbox, and whatever blobs it fills in between, it puts
the encodings of the messages into the blobs, in order and without loss; and an inbox that is given
what has been put into blobs so far gives the messages that are whole by then.
-/

namespace Parley

inductive Encodes : List Message → Bytes → Prop
  | nil : Encodes [] []
  | cons {message : Message} {messages : List Message} {bytes more : Bytes}
      (encoded : message.encode = .ok bytes) (rest : Encodes messages more) :
      Encodes (message :: messages) (bytes ++ more)

theorem Encodes.single {message : Message} {bytes : Bytes} (encoded : message.encode = .ok bytes) :
    Encodes [message] bytes := by
  have one := Encodes.cons encoded .nil
  rw [List.append_nil] at one
  exact one

theorem Encodes.append {messages others : List Message} {bytes more : Bytes}
    (first : Encodes messages bytes) (second : Encodes others more) :
    Encodes (messages ++ others) (bytes ++ more) := by
  induction first with
  | nil => exact second
  | cons encoded _ ih =>
      rw [List.append_assoc]
      exact .cons encoded ih

/-! ## Messages that have arrived -/

/-- The longest beginning of some messages whose encodings are all in the bytes sent so far. -/
structure Arrived (messages : List Message) (sent : Bytes) (whole : List Message) : Prop where
  first : whole <+: messages
  within : ∃ bytes, Encodes whole bytes ∧ bytes <+: sent
  longest {longer : List Message} {bytes : Bytes} (begun : longer <+: messages)
    (encodes : Encodes longer bytes) (within : bytes <+: sent) : longer <+: whole

namespace Message

variable {message : Message} {messages whole : List Message} {bytes sent : Bytes}

theorem arrived_none (encoded : message.encode = .ok bytes) (short : sent.length < bytes.length) :
    Arrived (message :: messages) sent [] := by
  refine ⟨List.nil_prefix, ⟨[], .nil, List.nil_prefix⟩, ?_⟩
  intro longer more begun encodes within
  rcases encodes with _ | ⟨other, rest⟩
  · exact List.nil_prefix
  · obtain ⟨rfl, -⟩ := List.cons_prefix_cons.mp begun
    rw [encoded] at other
    cases other
    have length := within.length_le
    rw [List.length_append] at length
    omega

theorem arrived_cons (encoded : message.encode = .ok bytes)
    (arrived : Arrived messages sent whole) :
    Arrived (message :: messages) (bytes ++ sent) (message :: whole) := by
  obtain ⟨first, ⟨more, encodes, within⟩, longest⟩ := arrived
  refine ⟨List.cons_prefix_cons.mpr ⟨rfl, first⟩,
    ⟨bytes ++ more, .cons encoded encodes, List.prefix_append_right_inj bytes |>.mpr within⟩, ?_⟩
  intro longer others begun encodes within
  rcases encodes with _ | ⟨other, rest⟩
  · exact List.nil_prefix
  · obtain ⟨rfl, further⟩ := List.cons_prefix_cons.mp begun
    rw [encoded] at other
    cases other
    have longest := longest further rest (List.prefix_append_right_inj bytes |>.mp within)
    exact List.cons_prefix_cons.mpr ⟨rfl, longest⟩

theorem parse_of_none (nothing : Inbox.next ⟨sent⟩ = .ok none) :
    (parse sent).messages = [] ∧ (parse sent).fault = none := by
  have answer := Inbox.answer_next ⟨sent⟩
  rw [nothing] at answer
  rcases reading : parse sent with ⟨_ | ⟨first, messages⟩, rest, _ | fault⟩ <;>
    simp [reading, Parse.answer, Except.map] at answer ⊢

theorem exists_arrived {unsent : Bytes} (encodes : Encodes messages (sent ++ unsent)) :
    ∃ whole, Arrived messages sent whole ∧ (parse sent).messages = whole ∧
      (parse sent).fault = none := by
  generalize same : sent ++ unsent = bytes at encodes
  induction encodes generalizing sent with
  | nil =>
      obtain ⟨rfl, -⟩ := List.append_eq_nil_iff.mp same
      have noneArrived : Arrived [] [] [] :=
        ⟨List.nil_prefix, ⟨[], .nil, List.nil_prefix⟩, fun begun _ _ => begun⟩
      refine ⟨[], noneArrived, ?_, ?_⟩ <;> rw [parse] <;> simp
  | @cons message messages bytes more encoded rest ih =>
      have sentFirst : sent <+: bytes ++ more := ⟨unsent, same⟩
      by_cases short : sent.length < bytes.length
      · obtain ⟨missing, split⟩ := List.prefix_of_prefix_length_le sentFirst
          (List.prefix_append bytes more) (Nat.le_of_lt short)
        have someMissing : missing ≠ [] := by
          rintro rfl
          rw [← split, List.append_nil] at short
          exact Nat.lt_irrefl _ short
        obtain ⟨noneRead, sound⟩ := parse_of_none (Inbox.next_part encoded split.symm someMissing)
        exact ⟨[], arrived_none encoded short, noneRead, sound⟩
      · obtain ⟨later, rfl⟩ := List.prefix_of_prefix_length_le (List.prefix_append bytes more)
          sentFirst (Nat.not_lt.mp short)
        rw [List.append_assoc, List.append_cancel_left_eq] at same
        obtain ⟨whole, arrived, read, sound⟩ := ih same
        obtain ⟨used, stored, reads⟩ := Inbox.parse_of_next (Inbox.next_encode encoded [])
        rw [List.append_nil, List.append_nil] at stored
        obtain rfl : bytes = used := stored
        rw [reads later]
        exact ⟨message :: whole, arrived_cons encoded arrived, congrArg (message :: ·) read, sound⟩

end Message

/-! ## Outboxes in use -/

namespace Outbox

inductive Use where
  | queue (message : Message)
  | fill (blob : Blob)

inductive Reply where
  | queued (fault : Option Fault)
  | filled (drained : Bool) (blob : Blob)

abbrev Trace := List (Use × Reply)

def run {σ : Type} (step : σ → Use → Reply × σ) (start : σ) (uses : List Use) : Trace × σ :=
  uses.foldl (fun (trace, now) use => (trace ++ [(use, (step now use).1)], (step now use).2))
    ([], start)

theorem run_concat {σ : Type} (step : σ → Use → Reply × σ) (start : σ) (uses : List Use)
    (use : Use) :
    run step start (uses ++ [use]) =
      ((run step start uses).1 ++ [(use, (step (run step start uses).2 use).1)],
        (step (run step start uses).2 use).2) := by
  rw [run, List.foldl_append]
  rfl

namespace Trace

def accepted (trace : Trace) : List Message :=
  trace.filterMap fun
    | (.queue message, .queued none) => some message
    | _ => none

def sent (trace : Trace) : Bytes :=
  trace.flatMap fun
    | (.fill before, .filled _ after) => before.gained after
    | _ => []

theorem accepted_append (first second : Trace) :
    accepted (first ++ second) = first.accepted ++ second.accepted := List.filterMap_append

theorem sent_append (first second : Trace) : sent (first ++ second) = first.sent ++ second.sent :=
  List.flatMap_append

end Trace

def use (outbox : Outbox) : Use → Reply × Outbox
  | .queue message =>
    match outbox.queue message with
    | .ok outbox => (.queued none, outbox)
    | .error fault => (.queued (some fault), outbox)
  | .fill blob =>
    let (outbox, blob) := outbox.fill blob
    (.filled outbox.isEmpty blob, outbox)

theorem isEmpty_iff (outbox : Outbox) : outbox.isEmpty = true ↔ outbox.bytes = [] :=
  List.isEmpty_iff

theorem queue_error_iff (outbox : Outbox) (message : Message) :
    (∃ fault, outbox.queue message = .error fault) ↔ longestBody < message.body.length := by
  rw [queue]
  rcases encoded : message.encode with fault | bytes
  · refine ⟨fun _ => ?_, fun _ => ⟨fault, rfl⟩⟩
    by_contra short
    rw [Message.encode_of_fits (Nat.not_lt.mp short)] at encoded
    cases encoded
  · have fits := (Message.encode_isOk_iff message).mp ⟨bytes, encoded⟩
    refine ⟨?_, fun long => absurd fits (Nat.not_le.mpr long)⟩
    rintro ⟨_, ⟨⟩⟩

theorem gained_fill (outbox : Outbox) (blob : Blob) :
    blob.gained (outbox.fill blob).2 = outbox.bytes.take blob.room := blob.gained_write _

theorem gained_fill_append (outbox : Outbox) (blob : Blob) :
    blob.gained (outbox.fill blob).2 ++ (outbox.fill blob).1.bytes = outbox.bytes := by
  have conserved := outbox.contents_fill_append blob
  have written : (outbox.fill blob).2.contents = blob.contents ++ outbox.bytes.take blob.room :=
    Blob.contents_write _ _
  rw [written, List.append_assoc, List.append_cancel_left_eq] at conserved
  rw [gained_fill, conserved]

theorem isEmpty_fill_iff (outbox : Outbox) (blob : Blob) :
    (outbox.fill blob).1.isEmpty = true ↔ outbox.bytes.take blob.room = outbox.bytes := by
  have nothingLeft : outbox.bytes.take blob.room =
      outbox.bytes.take blob.room ++ (outbox.fill blob).1.bytes ↔
        (outbox.fill blob).1.bytes = [] := List.self_eq_append_right
  rw [← gained_fill, gained_fill_append] at nothingLeft
  rw [isEmpty_iff, ← gained_fill, nothingLeft]

theorem encodes_use {trace : Trace} {outbox : Outbox} (use : Use)
    (encodes : Encodes trace.accepted (trace.sent ++ outbox.bytes)) :
    Encodes (Trace.accepted (trace ++ [(use, (outbox.use use).1)]))
      (Trace.sent (trace ++ [(use, (outbox.use use).1)]) ++ (outbox.use use).2.bytes) := by
  rw [Trace.accepted_append, Trace.sent_append, List.append_assoc]
  cases use with
  | queue message =>
      rcases encoded : message.encode with fault | bytes
      · have refused : outbox.use (.queue message) = (.queued (some fault), outbox) := by
          simp only [Outbox.use, queue, encoded]
        have silent : Trace.accepted [(.queue message, .queued (some fault))] = [] := rfl
        rw [refused, silent, List.append_nil]
        exact encodes
      · have queued : outbox.use (.queue message) = (.queued none, ⟨outbox.bytes ++ bytes⟩) := by
          simp only [Outbox.use, queue, encoded]
        have unsent : Trace.sent [(.queue message, .queued none)] = [] := rfl
        rw [queued, unsent, List.nil_append, ← List.append_assoc]
        exact encodes.append (.single encoded)
  | fill blob =>
      have silent : Trace.accepted [(.fill blob, (outbox.use (.fill blob)).1)] = [] := rfl
      have gained : Trace.sent [(.fill blob, (outbox.use (.fill blob)).1)] =
          blob.gained (outbox.fill blob).2 := List.flatMap_singleton _ _
      have conserved : blob.gained (outbox.fill blob).2 ++ (outbox.use (.fill blob)).2.bytes =
          outbox.bytes := outbox.gained_fill_append blob
      rw [silent, gained, List.append_nil, conserved]
      exact encodes

theorem encodes_run (uses : List Use) :
    Encodes (run use {} uses).1.accepted
      ((run use {} uses).1.sent ++ (run use {} uses).2.bytes) := by
  induction uses using List.reverseRecOn with
  | nil => exact .nil
  | append_singleton uses use ih =>
      rw [run_concat]
      exact encodes_use use ih

end Outbox

/-! ## Spools -/

/--
A spool keeps the messages that it sends until all of them are sent, and how many of their bytes are
sent already.
-/
structure Spool where
  pending : Bytes := []
  sent : Nat := 0
  deriving DecidableEq, Repr

namespace Spool

open Outbox (Use Reply)

def isEmpty (spool : Spool) : Bool := spool.sent == spool.pending.length

def queue (spool : Spool) (message : Message) : Except Fault Spool :=
  match message.encode with
  | .error fault => .error fault
  | .ok bytes => .ok { spool with pending := spool.pending ++ bytes }

def fill (spool : Spool) (blob : Blob) : Bool × Spool × Blob :=
  let (count, blob) := blob.write (spool.pending.drop spool.sent)
  let spool := { spool with sent := spool.sent + count }
  if spool.isEmpty then (true, {}, blob) else (false, spool, blob)

def use (spool : Spool) : Use → Reply × Spool
  | .queue message =>
    match spool.queue message with
    | .ok spool => (.queued none, spool)
    | .error fault => (.queued (some fault), spool)
  | .fill blob =>
    let (drained, spool, blob) := spool.fill blob
    (.filled drained blob, spool)

structure Holds (spool : Spool) (outbox : Outbox) : Prop where
  within : spool.sent ≤ spool.pending.length
  left : spool.pending.drop spool.sent = outbox.bytes

variable {spool : Spool} {outbox : Outbox}

theorem Holds.isEmpty_eq (holds : spool.Holds outbox) : spool.isEmpty = outbox.isEmpty := by
  obtain ⟨within, left⟩ := holds
  rw [Bool.eq_iff_iff, isEmpty, beq_iff_eq, Outbox.isEmpty_iff, ← left, List.drop_eq_nil_iff]
  omega

theorem Holds.use (holds : spool.Holds outbox) (use : Use) :
    (spool.use use).1 = (outbox.use use).1 ∧ (spool.use use).2.Holds (outbox.use use).2 := by
  obtain ⟨within, left⟩ := holds
  cases use with
  | queue message =>
      rcases encoded : message.encode with fault | bytes
      · simp only [Spool.use, queue, Outbox.use, Outbox.queue, encoded]
        exact ⟨trivial, within, left⟩
      · simp only [Spool.use, queue, Outbox.use, Outbox.queue, encoded]
        refine ⟨trivial, ?_, ?_⟩
        · rw [List.length_append]
          exact Nat.le_add_right_of_le within
        · rw [List.drop_append_of_le_length within, left]
  | fill blob =>
      have moved : Holds { spool with sent := spool.sent + (blob.write outbox.bytes).1 }
          (outbox.fill blob).1 := by
        refine ⟨?_, ?_⟩
        · have length := congrArg List.length left
          rw [List.length_drop] at length
          simp only [Blob.write, List.length_take]
          omega
        · rw [← List.drop_drop, left]
          rfl
      have same := moved.isEmpty_eq
      rw [Spool.use, fill, left]
      dsimp only
      split
      · rename_i emptied
        rw [emptied] at same
        refine ⟨?_, Nat.le_refl _, ?_⟩
        · rw [same]
          rfl
        · exact (Outbox.isEmpty_iff _ |>.mp same.symm).symm
      · rename_i someLeft
        rw [Bool.not_eq_true] at someLeft
        rw [someLeft] at same
        refine ⟨?_, moved⟩
        rw [same]
        rfl

theorem holds_run (uses : List Use) :
    (Outbox.run use {} uses).1 = (Outbox.run Outbox.use {} uses).1 ∧
      (Outbox.run use {} uses).2.Holds (Outbox.run Outbox.use {} uses).2 := by
  induction uses using List.reverseRecOn with
  | nil => exact ⟨rfl, Nat.le_refl _, rfl⟩
  | append_singleton uses use ih =>
      obtain ⟨same, holds⟩ := ih
      obtain ⟨outcome, still⟩ := holds.use use
      rw [Outbox.run_concat, Outbox.run_concat, same, outcome]
      exact ⟨rfl, still⟩

end Spool

namespace Outbox

/-! ## Chunks -/

structure Chunked (trace : Trace) (outbox : Outbox) (encoded : Bytes) : Prop where
  encodes : Encodes trace.accepted encoded
  begun : trace.sent <+: encoded
  emptied : outbox.isEmpty = true ↔ trace.sent = encoded
  /-- A blob gains the next bytes, as many as it has room for or as are left. -/
  fills (blob : Blob) : ∃ bytes,
    (outbox.fill blob).2.contents = blob.contents ++ bytes ∧
      bytes.length = min blob.room (encoded.length - trace.sent.length) ∧
      trace.sent ++ bytes <+: encoded ∧
      ((outbox.fill blob).1.isEmpty = true ↔ trace.sent ++ bytes = encoded)
  refuses (message : Message) :
    (∃ fault, outbox.queue message = .error fault) ↔ 2048 < message.body.length
  kept {message : Message} {fault : Fault} (refused : outbox.queue message = .error fault) :
    outbox.use (.queue message) = (.queued (some fault), outbox)

theorem chunked_run (uses : List Use) :
    ∃ encoded, Chunked (run use {} uses).1 (run use {} uses).2 encoded := by
  have encodes := encodes_run uses
  generalize run use {} uses = result at encodes ⊢
  rcases result with ⟨trace, outbox⟩
  refine ⟨_, encodes, List.prefix_append _ _, ?_, ?_, outbox.queue_error_iff, ?_⟩
  · rw [isEmpty_iff, List.self_eq_append_right]
  · intro blob
    refine ⟨outbox.bytes.take blob.room, Blob.contents_write _ _, ?_, ?_, ?_⟩
    · rw [List.length_take, List.length_append, Nat.add_sub_cancel_left]
    · exact List.prefix_append_right_inj _ |>.mpr (List.take_prefix _ _)
    · rw [List.append_cancel_left_eq]
      exact outbox.isEmpty_fill_iff blob
  · intro message fault refused
    simp only [use, refused]

theorem taken_of_parse {whole : List Message} {sent : Bytes}
    (read : (Message.parse sent).messages = whole) (sound : (Message.parse sent).fault = none)
    {blobs : Nat → Blob} {takes : List Inbox.Use}
    (brought : Inbox.Usage.brought blobs takes = sent) :
    let taken := Inbox.Usage.run { blobs } takes
    taken.messages = whole.take taken.messages.length ∧
      taken.inbox.next.map (Option.map Prod.fst) = .ok whole[taken.messages.length]? := by
  intro taken
  obtain ⟨used, split, reads⟩ := Inbox.Usage.accounts_run blobs takes
  have reading : Message.parse sent = (Message.parse taken.inbox.bytes).behind taken.messages := by
    rw [← reads, ← split, brought]
  refine ⟨?_, ?_⟩
  · rw [← read, reading]
    exact List.take_left.symm
  · rw [Inbox.answer_next, ← Message.Parse.answer_behind, ← reading, Message.Parse.answer, read,
      sound]
    cases whole[taken.messages.length]? <;> rfl

/--
However messages are queued in an outbox and blobs are filled by it, the blobs gain the encodings of
the accepted messages from the first byte on, and the outbox is empty once these are all. Whatever
brings these bytes to an inbox, it gives just the messages of which all bytes were sent. A spool
does the same.
-/
theorem chunks_run (uses : List Use) :
    let (trace, last) := run use {} uses
    (∃ encoded, Chunked trace last encoded) ∧
      (∃ whole, Arrived trace.accepted trace.sent whole ∧
        ∀ (blobs : Nat → Blob) (takes : List Inbox.Use),
          Inbox.Usage.brought blobs takes = trace.sent →
          let taken := Inbox.Usage.run { blobs } takes
          taken.messages = whole.take taken.messages.length ∧
            taken.inbox.next.map (Option.map Prod.fst) = .ok whole[taken.messages.length]?) ∧
      (run Spool.use {} uses).1 = trace ∧ (run Spool.use {} uses).2.isEmpty = last.isEmpty := by
  obtain ⟨same, holds⟩ := Spool.holds_run uses
  have encodes := encodes_run uses
  obtain ⟨whole, arrived, read, sound⟩ := Message.exists_arrived encodes
  have taken (blobs : Nat → Blob) (takes : List Inbox.Use)
      (brought : Inbox.Usage.brought blobs takes = (run use {} uses).1.sent) :=
    taken_of_parse read sound brought
  exact ⟨chunked_run uses, ⟨whole, arrived, taken⟩, same, holds.isEmpty_eq⟩

/-- The second message is queued while the first one is under way, and is sent only in part. -/
theorem chunks_run_halfway :
    let uses : List Use := [.queue (.choice "ab"), .fill (Blob.blank 30), .queue (.verdict true ""),
      .fill (Blob.blank 0), .fill ((Blob.blank 9).write [7]).2]
    let (trace, _) := run use {} uses
    let blobs := fun _ => ((Blob.blank 64).write trace.sent).2
    let taken := Inbox.Usage.run { blobs } [.absorb 0, .next, .next]
    trace.accepted = [.choice "ab", .verdict true ""] ∧ trace.sent.length = 38 ∧
      Inbox.Usage.brought blobs [.absorb 0, .next, .next] = trace.sent ∧
      ∃ whole, Arrived trace.accepted trace.sent whole ∧
        taken.messages = whole.take taken.messages.length ∧
        taken.inbox.next.map (Option.map Prod.fst) = .ok whole[taken.messages.length]? := by
  intro uses
  have brought : Inbox.Usage.brought (fun _ => ((Blob.blank 64).write (run use {} uses).1.sent).2)
      [.absorb 0, .next, .next] = (run use {} uses).1.sent := by decide +kernel
  obtain ⟨-, ⟨whole, arrived, taken⟩, -⟩ := chunks_run uses
  refine ⟨by decide +kernel, by decide +kernel, brought, whole, arrived, ?_⟩
  exact taken _ _ brought

end Outbox

end Parley
