import Mathlib.Data.List.Forall2
import Parley.Proofs.Bytes.RoundTrip
import Parley.Proofs.Channel.Frame

/-!
Frames across streams. However a stream is cut into reads, a frame is received from it in the same
way: whole, or as a length that is refused, or not at all because the stream stops too early.
-/

namespace Parley

namespace Script

/-- Reads that give a stream piece by piece before what follows it; an empty piece gives nothing. -/
inductive Pieces (closing : List ReadItem) : Bytes → List ReadItem → Prop
  | over : Pieces closing [] closing
  | piece {stream : Bytes} {reads : List ReadItem} (bytes : Bytes)
      (later : Pieces closing stream reads) :
      Pieces closing (bytes ++ stream) (.data bytes :: reads)

/-- What a read finds where a stream stops, and what there is to read from then on. -/
inductive Stops : List ReadItem → Fault → List ReadItem → Prop
  | past : Stops [] .channelClosed []
  | ended (more : List ReadItem) : Stops (.ended :: more) .channelClosed (.ended :: more)
  | broken (kind : TransportKind) (more : List ReadItem) :
      Stops (.error kind :: more) (.transport { kind }) more

def Closes (closing : List ReadItem) : Prop := Stops closing .channelClosed closing

variable {closing after : List ReadItem} {stream : Bytes} {reads : List ReadItem} {fault : Fault}

theorem Pieces.take {limit : Nat} (pieces : Pieces closing stream reads) (asked : 0 < limit)
    (someBytes : stream ≠ []) :
    ∃ bytes left later, Script.take limit reads = (some (.ok bytes), later) ∧ bytes ≠ [] ∧
      bytes.length ≤ limit ∧ stream = bytes ++ left ∧ Pieces closing left later := by
  induction pieces with
  | «over» => exact absurd rfl someBytes
  | @piece stream reads bytes later ih =>
      rcases bytes with _ | ⟨byte, bytes⟩
      · exact ih someBytes
      · refine ⟨(byte :: bytes).take limit, (byte :: bytes).drop limit ++ stream, _, rfl, ?_,
          List.length_take_le _ _, ?_, ?_⟩
        · rw [← List.length_pos_iff, List.length_take, List.length_cons]
          omega
        · rw [← List.append_assoc, List.take_append_drop]
        · split
          · rename_i short
            rwa [List.drop_of_length_le short]
          · exact .piece _ later

theorem Pieces.take_over {limit : Nat} (pieces : Pieces closing [] reads) :
    Script.take limit reads = Script.take limit closing := by
  generalize nothing : ([] : Bytes) = stream at pieces
  induction pieces with
  | «over» => rfl
  | piece bytes _ ih =>
      obtain ⟨rfl, noneLeft⟩ := List.append_eq_nil_iff.mp nothing.symm
      exact ih noneLeft.symm

end Script

namespace Frame

open Script

variable {closing after : List ReadItem} {stream gathered payload : Bytes} {script : Script}
  {bound missing limit : Nat} {fault : Fault}

theorem play_gather (script : Script) (missing : Nat) (gathered : Bytes)
    (pieces : Pieces closing stream script.reads) (enough : missing ≤ bound)
    (there : missing ≤ stream.length) :
    ∃ reads, script.play (gather bound missing gathered) =
        (some (.ok (gathered ++ stream.take missing)), { script with reads }) ∧
      Pieces closing (stream.drop missing) reads := by
  induction bound generalizing missing gathered stream script with
  | zero =>
      obtain rfl : missing = 0 := by omega
      exact ⟨script.reads, by simp [gather, play], pieces⟩
  | succ bound ih =>
      by_cases complete : missing = 0
      · subst complete
        exact ⟨script.reads, by simp [gather, play], pieces⟩
      · have someBytes : stream ≠ [] := by
          rintro rfl
          simp at there
          omega
        obtain ⟨bytes, left, later, taken, filled, short, rfl, rest⟩ :=
          pieces.take (by omega : 0 < missing) someBytes
        obtain ⟨byte, bytes, rfl⟩ := List.exists_cons_of_ne_nil filled
        have positive : 0 < (byte :: bytes).length := List.length_pos_iff.mpr filled
        rw [List.length_append] at there
        obtain ⟨reads, played, last⟩ := ih { script with reads := later }
          (missing - (byte :: bytes).length) (gathered ++ (byte :: bytes)) rest (by omega)
          (by omega)
        refine ⟨reads, ?_, ?_⟩
        · rw [gather, if_neg complete]
          simp only [play, Script.read, taken]
          rw [played, List.append_assoc, List.take_append, List.take_of_length_le short]
        · rw [List.drop_append, List.drop_of_length_le short]
          exact last

theorem play_gather_of_short (script : Script) (pieces : Pieces closing stream script.reads)
    (enough : missing ≤ bound) (short : stream.length < missing)
    (stops : Stops closing fault after) :
    script.play (gather bound missing gathered) =
      (some (.error fault), { script with reads := after }) := by
  induction bound generalizing missing gathered stream script with
  | zero => omega
  | succ bound ih =>
      rw [gather, if_neg (by omega)]
      by_cases nothing : stream = []
      · subst nothing
        simp only [play, Script.read, pieces.take_over]
        cases stops <;> rfl
      · obtain ⟨bytes, left, later, taken, filled, fits, rfl, rest⟩ :=
          pieces.take (by omega : 0 < missing) nothing
        obtain ⟨byte, bytes, rfl⟩ := List.exists_cons_of_ne_nil filled
        have positive : 0 < (byte :: bytes).length := List.length_pos_iff.mpr filled
        rw [List.length_append] at short
        simp only [play, Script.read, taken]
        exact ih { script with reads := later } rest (by omega) (by omega)

/-! ## One frame -/

def declared (stream : Bytes) : Nat := Bytes.number (stream.take headerLength)

/-- The stream stops before it has the header, or the payload of a length that is admitted. -/
def Unfinished (limit : Nat) (stream : Bytes) : Prop :=
  stream.length < headerLength ∨
    declared stream ≤ limit ∧ (stream.drop headerLength).length < declared stream

theorem play_receive_of_headed (limit : Nat) (pieces : Pieces closing stream script.reads)
    (headed : headerLength ≤ stream.length) :
    ∃ reads, Pieces closing (stream.drop headerLength) reads ∧
      script.play (receive limit) =
        ({ script with reads } : Script).play
          (if limit < declared stream then
            .done (.error (.frameTooLarge (declared stream) limit))
          else readExactly (declared stream)) := by
  obtain ⟨reads, played, rest⟩ := play_gather script _ [] pieces (Nat.le_refl _) headed
  refine ⟨reads, rest, ?_⟩
  rw [receive, play_bind, readExactly, played, List.nil_append]
  rfl

theorem play_receive_of_unfinished (pieces : Pieces closing stream script.reads)
    (unfinished : Unfinished limit stream) (stops : Stops closing fault after) :
    script.play (receive limit) = (some (.error fault), { script with reads := after }) := by
  by_cases short : stream.length < headerLength
  · rw [receive, play_bind, readExactly,
      play_gather_of_short script pieces (Nat.le_refl _) short stops]
    rfl
  · obtain ⟨admitted, missing⟩ := unfinished.resolve_left short
    obtain ⟨reads, rest, played⟩ :=
      play_receive_of_headed limit pieces (Nat.le_of_not_lt short)
    rw [played, if_neg (Nat.not_lt_of_le admitted), readExactly]
    exact play_gather_of_short { script with reads } rest (Nat.le_refl _) missing stops

def reception (limit : Nat) (stream : Bytes) : Except Fault Bytes × Nat :=
  if limit < declared stream then
    (.error (.frameTooLarge (declared stream) limit), headerLength)
  else
    (.ok ((stream.drop headerLength).take (declared stream)), headerLength + declared stream)

theorem play_receive_of_finished (pieces : Pieces closing stream script.reads)
    (finished : ¬ Unfinished limit stream) :
    ∃ reads, script.play (receive limit) =
        (some (reception limit stream).1, { script with reads }) ∧
      Pieces closing (stream.drop (reception limit stream).2) reads := by
  obtain ⟨headed, whole⟩ := not_or.mp finished
  obtain ⟨middle, rest, played⟩ :=
    play_receive_of_headed limit pieces (Nat.le_of_not_lt headed)
  rw [played, reception]
  by_cases long : limit < declared stream
  · rw [if_pos long, if_pos long]
    exact ⟨middle, rfl, rest⟩
  · rw [if_neg long, if_neg long, ← List.drop_drop]
    have there : declared stream ≤ (stream.drop headerLength).length :=
      Nat.le_of_not_lt fun short => whole ⟨Nat.le_of_not_lt long, short⟩
    exact play_gather { script with reads := middle } _ [] rest (Nat.le_refl _) there

/--
What is received of a stream that its peer closes, and the bytes that this takes. A length beyond
the limit is refused as soon as it is read, and the channel is found closed if the stream stops
before it has the header or the payload of a length within the limit.
-/
structure Arrival (limit : Nat) (stream : Bytes) (result : Except Fault Bytes) (used : Bytes) :
    Prop where
  tooLarge (length : Nat) : result = .error (.frameTooLarge length limit) ↔
    headerLength ≤ stream.length ∧ declared stream = length ∧ limit < length
  headerOnly : headerLength ≤ stream.length → limit < declared stream →
    used = stream.take headerLength
  closed : result = .error .channelClosed ↔ Unfinished limit stream
  whole (frame : Bytes) : result = .ok frame ↔
    headerLength ≤ stream.length ∧ declared stream = frame.length ∧ frame.length ≤ limit ∧
      frame <+: stream.drop headerLength

theorem arrival_of_unfinished (unfinished : Unfinished limit stream) :
    Arrival limit stream (.error .channelClosed) stream where
  tooLarge length := by
    refine ⟨fun same => by simp at same, fun ⟨headed, stated, long⟩ => ?_⟩
    rcases unfinished with short | ⟨admitted, _⟩ <;> omega
  headerOnly headed long := by rcases unfinished with short | ⟨admitted, _⟩ <;> omega
  closed := ⟨fun _ => unfinished, fun _ => rfl⟩
  whole frame := by
    refine ⟨fun same => by simp at same, fun ⟨headed, stated, admitted, start⟩ => ?_⟩
    have there := start.length_le
    rcases unfinished with short | ⟨_, missing⟩ <;> omega

theorem arrival_of_finished (finished : ¬ Unfinished limit stream) :
    Arrival limit stream (reception limit stream).1
      (stream.take (reception limit stream).2) := by
  obtain ⟨headed, complete⟩ := not_or.mp finished
  rw [reception]
  by_cases long : limit < declared stream
  · rw [if_pos long]
    refine ⟨fun length => ?_, fun _ _ => rfl, ?_, fun frame => ?_⟩
    · rw [Except.error.injEq, Fault.frameTooLarge.injEq]
      exact ⟨fun same => ⟨by omega, same.1, same.1 ▸ long⟩, fun same => ⟨same.2.1, rfl⟩⟩
    · simp [finished]
    · refine ⟨fun same => by simp at same, fun ⟨_, stated, admitted, _⟩ => by omega⟩
  · have there : declared stream ≤ (stream.drop headerLength).length :=
      Nat.le_of_not_lt fun short => complete ⟨Nat.le_of_not_lt long, short⟩
    have taken : ((stream.drop headerLength).take (declared stream)).length = declared stream := by
      rw [List.length_take]
      omega
    rw [if_neg long]
    refine ⟨fun length => ?_, fun _ far => absurd far long, ?_, fun frame => ?_⟩
    · refine ⟨fun same => by simp at same, fun ⟨_, stated, beyond⟩ => by omega⟩
    · simp [finished]
    · rw [Except.ok.injEq]
      constructor
      · rintro rfl
        exact ⟨by omega, taken.symm, by omega, List.take_prefix _ _⟩
      · rintro ⟨_, stated, _, start⟩
        rw [List.prefix_iff_eq_take.mp start, stated]

theorem play_receive_alike {ending : List ReadItem} {other : Script} (closes : Closes closing)
    (ends : Closes ending) (pieces : Pieces closing stream script.reads)
    (others : Pieces ending stream other.reads) :
    ∃ result used left reads more, stream = used ++ left ∧ Arrival limit stream result used ∧
      script.play (receive limit) = (some result, { script with reads }) ∧
      other.play (receive limit) = (some result, { other with reads := more }) ∧
      Pieces closing left reads ∧ Pieces ending left more := by
  by_cases unfinished : Unfinished limit stream
  · exact ⟨_, stream, [], _, _, (List.append_nil _).symm, arrival_of_unfinished unfinished,
      play_receive_of_unfinished pieces unfinished closes,
      play_receive_of_unfinished others unfinished ends, .over, .over⟩
  · obtain ⟨reads, played, rest⟩ := play_receive_of_finished pieces unfinished
    obtain ⟨more, again, remains⟩ := play_receive_of_finished others unfinished
    exact ⟨_, _, _, reads, more, (List.take_append_drop _ _).symm,
      arrival_of_finished unfinished, played, again, rest, remains⟩

/-! ## Many frames -/

def sendEach : List Bytes → Script → List (Option (Except Fault Unit)) × Script
  | [], script => ([], script)
  | payload :: payloads, script =>
    let (result, script) := script.play (send payload)
    let (results, script) := sendEach payloads script
    (result :: results, script)

def receiveEach : List Nat → Script → List (Option (Except Fault Bytes)) × Script
  | [], script => ([], script)
  | limit :: limits, script =>
    let (result, script) := script.play (receive limit)
    let (results, script) := receiveEach limits script
    (result :: results, script)

theorem sendEach_of_short (payloads : List Bytes) (script : Script)
    (short : ∀ payload ∈ payloads, payload.length ≤ longestPayload)
    (unlimited : script.writeLimit = none) :
    sendEach payloads script =
      (payloads.map fun _ => some (.ok ()),
        { script with
          record := script.record ++ payloads.map fun payload => .data (encode payload) }) := by
  induction payloads generalizing script with
  | nil => simp [sendEach]
  | cons payload payloads ih =>
      have sent : script.play (send payload) =
          (some (.ok ()), { script with record := script.record ++ [.data (encode payload)] }) := by
        rw [send, if_neg (Nat.not_lt_of_le (short payload (by simp)))]
        simp [play, write, unlimited]
      have later := ih { script with record := script.record ++ [.data (encode payload)] }
        (fun payload member => short payload (by simp [member])) unlimited
      rw [sendEach, sent]
      dsimp only
      rw [later]
      simp

theorem declared_encode (payload more : Bytes) (short : payload.length ≤ longestPayload) :
    declared (encode payload ++ more) = payload.length := by
  have header : (encode payload ++ more).take headerLength = Bytes.word32 payload.length := by
    rw [encode, List.append_assoc]
    exact List.take_left' (Bytes.length_word32 _)
  rw [declared, header, Bytes.number_word32]
  rw [longestPayload] at short
  omega

theorem drop_encode (payload more : Bytes) :
    (encode payload ++ more).drop headerLength = payload ++ more := by
  rw [encode, List.append_assoc]
  exact List.drop_left' (Bytes.length_word32 _)

theorem play_receive_encode {more : Bytes}
    (pieces : Pieces closing (encode payload ++ more) script.reads)
    (short : payload.length ≤ longestPayload) (admitted : payload.length ≤ limit) :
    ∃ reads, script.play (receive limit) = (some (.ok payload), { script with reads }) ∧
      Pieces closing more reads := by
  have stated := declared_encode payload more short
  have finished : ¬ Unfinished limit (encode payload ++ more) := by
    rw [Unfinished, stated, drop_encode, List.length_append, encode, List.length_append,
      List.length_append, Bytes.length_word32, headerLength]
    omega
  obtain ⟨reads, played, rest⟩ := play_receive_of_finished pieces finished
  refine ⟨reads, ?_, ?_⟩
  · rw [played, reception, stated, if_neg (Nat.not_lt_of_le admitted), drop_encode, List.take_left]
  · rw [reception, stated, if_neg (Nat.not_lt_of_le admitted), ← List.drop_drop, drop_encode,
      List.drop_left] at rest
    exact rest

theorem receiveEach_of_closed (limits : List Nat) (script : Script)
    (pieces : Pieces closing [] script.reads) (closes : Closes closing) :
    (receiveEach limits script).1 = limits.map fun _ => some (.error .channelClosed) := by
  induction limits generalizing script with
  | nil => rfl
  | cons limit limits ih =>
      have unfinished : Unfinished limit [] := Or.inl (by decide)
      rw [receiveEach, play_receive_of_unfinished pieces unfinished closes]
      exact congrArg _ (ih { script with reads := closing } .over)

theorem receiveEach_encode {payloads : List Bytes} {limits : List Nat} (further : List Nat)
    (script : Script) (short : ∀ payload ∈ payloads, payload.length ≤ longestPayload)
    (admitted : List.Forall₂ (fun payload limit => payload.length ≤ limit) payloads limits)
    (pieces : Pieces closing (payloads.map encode).flatten script.reads)
    (closes : Closes closing) :
    (receiveEach (limits ++ further) script).1 =
      (payloads.map fun payload => some (.ok payload)) ++
        further.map fun _ => some (.error .channelClosed) := by
  induction admitted generalizing script with
  | nil => exact receiveEach_of_closed further script pieces closes
  | @cons payload limit payloads limits fits _ ih =>
      obtain ⟨reads, played, rest⟩ :=
        play_receive_encode pieces (short payload (by simp)) fits
      rw [List.cons_append, receiveEach, played]
      exact congrArg _ (ih { script with reads }
        (fun payload member => short payload (by simp [member])) rest)

/--
Frames come through as they were sent. First, whatever the cut of the bytes that were sent, each
payload is received in its turn, and then the end of the stream. Second, what is received of a
stream that its peer closes does not depend on how it is cut. Third, if a read fails before all
bytes of a frame have come, its error is what is received, and no later error is.
-/
theorem transported :
    (∀ (payloads : List Bytes) (limits further : List Nat) (sender receiver : Script)
      (closing : List ReadItem),
      (∀ payload ∈ payloads, payload.length < 4294967296) → sender.writeLimit = none →
      List.Forall₂ (fun payload limit => payload.length ≤ limit) payloads limits →
      Closes closing →
      ∀ frames, (sendEach payloads sender).2.written = sender.written ++ frames →
      Pieces closing frames.flatten receiver.reads →
      (sendEach payloads sender).1 = (payloads.map fun _ => some (.ok ())) ∧
        (receiveEach (limits ++ further) receiver).1 =
          (payloads.map fun payload => some (.ok payload)) ++
            further.map fun _ => some (.error .channelClosed)) ∧
    (∀ (limit : Nat) (stream : Bytes) (first second : Script) (closing ending : List ReadItem),
      Closes closing → Closes ending → Pieces closing stream first.reads →
      Pieces ending stream second.reads →
      ∃ result used left reads others, stream = used ++ left ∧ Arrival limit stream result used ∧
        first.play (receive limit) = (some result, { first with reads }) ∧
        second.play (receive limit) = (some result, { second with reads := others }) ∧
        Pieces closing left reads ∧ Pieces ending left others) ∧
    (∀ (limit : Nat) (stream : Bytes) (script : Script) (kind : TransportKind)
      (more : List ReadItem), Pieces (.error kind :: more) stream script.reads →
      (Unfinished limit stream →
        script.play (receive limit) =
          (some (.error (.transport { kind })), { script with reads := more })) ∧
      (¬ Unfinished limit stream → ∀ (whole : Script) (closing : List ReadItem),
        Closes closing → Pieces closing stream whole.reads →
        (script.play (receive limit)).1 = (whole.play (receive limit)).1)) := by
  refine ⟨?_, fun _ _ _ _ _ _ => play_receive_alike, ?_⟩
  · intro payloads limits further sender receiver closing short unlimited admitted closes frames
      wrote pieces
    have short' : ∀ payload ∈ payloads, payload.length ≤ longestPayload :=
      fun payload member => Nat.le_of_lt_succ (short payload member)
    have sent := sendEach_of_short payloads sender short' unlimited
    obtain rfl : frames = payloads.map encode := by
      rw [sent, Script.written, Script.written, List.filterMap_append, List.filterMap_map] at wrote
      rw [← List.append_cancel_left wrote]
      exact congrFun List.filterMap_eq_map' payloads
    exact ⟨by rw [sent], receiveEach_encode further receiver short' admitted pieces closes⟩
  · intro limit stream script kind more pieces
    refine ⟨fun unfinished => ?_, fun finished whole closing closes cut => ?_⟩
    · exact play_receive_of_unfinished pieces unfinished (.broken kind more)
    · obtain ⟨reads, played, _⟩ := play_receive_of_finished pieces finished
      obtain ⟨others, again, _⟩ := play_receive_of_finished cut finished
      rw [played, again]

/-- Two payloads, one of them empty, whose bytes come cut in the header and in the text. -/
theorem transported_greeting :
    (sendEach [[104, 105], []] {}).1 = [some (.ok ()), some (.ok ())] ∧
      (receiveEach [2, 0, 7]
        { reads := [.data [0, 0], .data [0, 2, 104], .data [105, 0, 0, 0, 0]] }).1 =
          [some (.ok [104, 105]), some (.ok []), some (.error .channelClosed)] :=
  transported.1 [[104, 105], []] [2, 0] [7] {} _ [] (by decide) rfl
    (.cons (by decide) (.cons (by decide) .nil)) .past
    [[0, 0, 0, 2, 104, 105], [0, 0, 0, 0]] (by decide)
    (.piece [0, 0] (.piece [0, 2, 104] (.piece [105, 0, 0, 0, 0] .over)))

end Frame

end Parley
