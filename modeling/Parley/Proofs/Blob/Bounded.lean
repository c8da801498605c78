import Mathlib.Logic.Function.Basic
import Parley.Blob

/-!
Blobs as bounded lists. Whatever is done with blobs and with copies of them, they answer as lists of
a bounded length do in which gaps are filled with zeros. This rests on what cannot be seen of a
blob: past its written region there are only zeros.
-/

namespace Parley

/-! ## Buffers in use -/

namespace Blob

inductive Use where
  | write (bytes : Bytes)
  | writeAt (offset : Nat) (bytes : Bytes)
  | read (limit : Nat)
  | readAt (offset limit : Nat)
  | takeUnread
  | clear
  deriving DecidableEq, Repr

inductive Reply where
  | accepted (count : Nat)
  | got (bytes : Bytes)
  | cleared
  deriving DecidableEq, Repr

/-- One of several buffers is used, or it becomes a copy of another one. -/
inductive Act where
  | use (place : Nat) (use : Use)
  | clone (place source : Nat)
  deriving DecidableEq, Repr

def run {σ : Type} (step : σ → Use → Reply × σ) (buffers : Nat → σ) :
    List Act → List Reply × (Nat → σ)
  | [] => ([], buffers)
  | .use place use :: rest =>
    let (reply, buffer) := step (buffers place) use
    let (replies, last) := run step (Function.update buffers place buffer) rest
    (reply :: replies, last)
  | .clone place source :: rest =>
    run step (Function.update buffers place (buffers source)) rest

theorem run_alike {σ τ : Type} {step : σ → Use → Reply × σ} {other : τ → Use → Reply × τ}
    {Like : σ → τ → Prop}
    (stays : ∀ first second use, Like first second →
      (step first use).1 = (other second use).1 ∧ Like (step first use).2 (other second use).2)
    {first : Nat → σ} {second : Nat → τ} (alike : ∀ place, Like (first place) (second place))
    (acts : List Act) :
    (run step first acts).1 = (run other second acts).1 ∧
      ∀ place, Like ((run step first acts).2 place) ((run other second acts).2 place) := by
  have updated {first : Nat → σ} {second : Nat → τ} {one : σ} {two : τ}
      (alike : ∀ place, Like (first place) (second place)) (like : Like one two) (place : Nat) :
      ∀ other, Like (Function.update first place one other)
        (Function.update second place two other) := by
    intro other
    by_cases same : other = place
    · subst same
      rwa [Function.update_self, Function.update_self]
    · rw [Function.update_of_ne same, Function.update_of_ne same]
      exact alike other
  induction acts generalizing first second with
  | nil => exact ⟨rfl, alike⟩
  | cons act rest ih =>
      cases act with
      | use place use =>
          obtain ⟨reply, like⟩ := stays _ _ use (alike place)
          obtain ⟨replies, last⟩ := ih (updated alike like place)
          exact ⟨congrArg₂ List.cons reply replies, last⟩
      | clone place source => exact ih (updated alike (alike source) place)

def use (blob : Blob) : Use → Reply × Blob
  | .write bytes => (.accepted (blob.write bytes).1, (blob.write bytes).2)
  | .writeAt offset bytes =>
    (.accepted (blob.writeAt offset bytes).1, (blob.writeAt offset bytes).2)
  | .read limit => (.got (blob.read limit).1, (blob.read limit).2)
  | .readAt offset limit => (.got (blob.readAt offset limit), blob)
  | .takeUnread => (.got blob.takeUnread.1, blob.takeUnread.2)
  | .clear => (.cleared, blob.clear)

end Blob

/-! ## Pages -/

/-- A list of bytes that is to be no longer than a capacity, and where it is read on. -/
structure Page where
  capacity : Nat
  bytes : Bytes := []
  position : Nat := 0
  deriving DecidableEq, Repr

namespace Page

open Blob (Use Reply)

def room (page : Page) : Nat := page.capacity - page.bytes.length

def laid (page : Page) (offset : Nat) (bytes : Bytes) : Bytes :=
  (page.bytes ++ List.replicate (offset - page.bytes.length) 0).take offset ++ bytes ++
    page.bytes.drop (offset + bytes.length)

def use (page : Page) : Use → Reply × Page
  | .write bytes =>
    (.accepted (min bytes.length page.room),
      { page with bytes := page.bytes ++ bytes.take page.room })
  | .writeAt offset bytes =>
    if offset < page.capacity then
      (.accepted (min bytes.length (page.capacity - offset)),
        { page with bytes := page.laid offset (bytes.take (page.capacity - offset)) })
    else (.accepted 0, page)
  | .read limit =>
    let bytes := (page.bytes.drop page.position).take limit
    (.got bytes, { page with position := page.position + bytes.length })
  | .readAt offset limit => (.got ((page.bytes.drop offset).take limit), page)
  | .takeUnread =>
    (.got (page.bytes.drop page.position), { page with position := page.bytes.length })
  | .clear => (.cleared, { page with bytes := [], position := 0 })

end Page

namespace Blob

/-! ## Cells past the written region -/

def Clean (blob : Blob) : Prop :=
  blob.cells.drop blob.length = List.replicate (blob.capacity - blob.length) 0

variable {blob : Blob}

theorem drop_overlay {cells : Bytes} {offset start : Nat} {bytes : Bytes}
    (inside : offset ≤ cells.length) (past : offset + bytes.length ≤ start) :
    (overlay cells offset bytes).drop start = cells.drop start := by
  have length : (cells.take offset ++ bytes).length = offset + bytes.length := by
    simp only [List.length_append, List.length_take]
    omega
  have further : offset + bytes.length + (start - (offset + bytes.length)) = start := by omega
  rw [overlay, List.drop_append, List.drop_of_length_le (by omega), List.nil_append, length,
    List.drop_drop, further]

theorem Clean.drop_cells (clean : blob.Clean) {start : Nat} (past : blob.length ≤ start) :
    blob.cells.drop start = List.replicate (blob.capacity - start) 0 := by
  have further : blob.length + (start - blob.length) = start := by omega
  rw [← further, ← List.drop_drop, clean, List.drop_replicate]
  congr 1
  omega

theorem Clean.cells_eq (clean : blob.Clean) :
    blob.cells = blob.contents ++ List.replicate (blob.capacity - blob.length) 0 := by
  rw [contents, ← clean, List.take_append_drop]

theorem clean_blank (capacity : Nat) : (blank capacity).Clean := by
  have whole : (blank capacity).capacity = capacity := capacity_blank capacity
  rw [Clean, whole]
  rfl

theorem Clean.write (clean : blob.Clean) (bytes : Bytes) : (blob.write bytes).2.Clean := by
  rw [Clean, capacity_write]
  exact (drop_overlay blob.length_le (Nat.le_refl _)).trans
    (clean.drop_cells (Nat.le_add_right _ _))

theorem fits_writeAt {offset : Nat} (inside : offset < blob.capacity) (bytes : Bytes) :
    offset + (bytes.take (blob.capacity - offset)).length ≤ blob.cells.length := by
  simp only [capacity] at inside
  simp only [capacity, List.length_take]
  omega

theorem capacity_writeAt (blob : Blob) (offset : Nat) (bytes : Bytes) :
    (blob.writeAt offset bytes).2.capacity = blob.capacity := by
  rw [writeAt]
  split
  · rename_i inside
    exact length_overlay _ _ _ (fits_writeAt inside bytes)
  · rfl

theorem Clean.writeAt (clean : blob.Clean) (offset : Nat) (bytes : Bytes) :
    (blob.writeAt offset bytes).2.Clean := by
  rw [Clean, capacity_writeAt, Blob.writeAt]
  split
  · rename_i inside
    exact (drop_overlay (Nat.le_of_lt inside) (Nat.le_max_right _ _)).trans
      (clean.drop_cells (Nat.le_max_left _ _))
  · exact clean

theorem Clean.clear_eq (clean : blob.Clean) : blob.clear = blank blob.capacity := by
  have cells : overlay blob.cells 0 (List.replicate blob.length 0) =
      List.replicate blob.capacity 0 := by
    have inside := blob.length_le
    rw [overlay, List.take_zero, List.nil_append, List.length_replicate, Nat.zero_add, clean,
      List.replicate_append_replicate]
    congr 1
    simp only [capacity]
    omega
  simp only [clear, blank, cells]

theorem Clean.use (clean : blob.Clean) (use : Use) : (blob.use use).2.Clean := by
  cases use with
  | write bytes => exact clean.write bytes
  | writeAt offset bytes => exact clean.writeAt offset bytes
  | read limit => exact clean
  | readAt offset limit => exact clean
  | takeUnread =>
      exact clean
  | clear =>
      have cleared := clean_blank blob.capacity
      rwa [← clean.clear_eq] at cleared

/-! ## Blobs are pages -/

def page (blob : Blob) : Page := ⟨blob.capacity, blob.contents, blob.position⟩

theorem room_page (blob : Blob) : blob.page.room = blob.room := by
  rw [Page.room, room]
  simp only [page, length_contents]

theorem take_cells (blob : Blob) {start count : Nat} (written : start + count ≤ blob.length) :
    (blob.cells.drop start).take count = (blob.contents.drop start).take count := by
  rw [contents, List.drop_take, List.take_take, Nat.min_eq_left (by omega)]

theorem contents_writeAt (clean : blob.Clean) {offset : Nat} (inside : offset < blob.capacity)
    (bytes : Bytes) :
    (blob.writeAt offset bytes).2.contents =
      blob.page.laid offset (bytes.take (blob.capacity - offset)) := by
  have fits := fits_writeAt inside bytes
  have written := blob.length_le
  have length := blob.length_contents
  have laid : (blob.writeAt offset bytes).2.contents =
      (overlay blob.cells offset (bytes.take (blob.capacity - offset))).take
        (max blob.length (offset + (bytes.take (blob.capacity - offset)).length)) := by
    rw [writeAt, dif_pos inside]
    rfl
  rw [laid]
  simp only [page, Page.laid]
  generalize bytes.take (blob.capacity - offset) = accepted at fits ⊢
  -- Before the offset stand the written bytes, and zeros if these do not reach it.
  have front : blob.cells.take offset =
      (blob.contents ++ List.replicate (offset - blob.contents.length) 0).take offset := by
    rw [clean.cells_eq, List.take_append, List.take_append, List.take_replicate,
      List.take_replicate, length]
    congr 2
    simp only [capacity]
    omega
  have before : (blob.cells.take offset ++ accepted).length = offset + accepted.length := by
    simp only [List.length_append, List.length_take]
    omega
  have behind : (blob.cells.drop (offset + accepted.length)).take
      (max blob.length (offset + accepted.length) - (offset + accepted.length)) =
        blob.contents.drop (offset + accepted.length) := by
    rw [contents, List.drop_take]
    congr 1
    omega
  rw [overlay, List.take_append, before, List.take_of_length_le, behind, front]
  rw [before]
  exact Nat.le_max_right _ _

theorem read_eq (blob : Blob) (limit : Nat) :
    (blob.read limit).1 = (blob.contents.drop blob.position).take limit ∧
      (blob.read limit).2.position = blob.position + (blob.read limit).1.length := by
  have inside := blob.position_le
  have length := blob.length_contents
  have written : blob.position + min limit blob.unread ≤ blob.length := by
    rw [unread]
    omega
  have taken : (blob.read limit).1 = (blob.contents.drop blob.position).take limit := by
    rw [read, take_cells _ written, List.take_eq_take_iff, List.length_drop, length, unread]
    omega
  refine ⟨taken, ?_⟩
  rw [taken, List.length_take, List.length_drop, length]
  rfl

/-- What a blob answers, and what can be seen of it then, is what its page makes of the same use. -/
theorem page_use (clean : blob.Clean) (use : Use) :
    (blob.use use).1 = (blob.page.use use).1 ∧ (blob.use use).2.page = (blob.page.use use).2 := by
  have length := blob.length_contents
  cases use with
  | write bytes =>
      simp only [Blob.use, Page.use, room_page]
      refine ⟨?_, ?_⟩
      · simp only [write, List.length_take]
        rw [Nat.min_comm]
      · simp only [page, capacity_write, contents_write]
        rfl
  | writeAt offset bytes =>
      simp only [Blob.use, Page.use]
      by_cases inside : offset < blob.capacity
      · have seen : offset < blob.page.capacity := inside
        rw [if_pos seen]
        refine ⟨?_, ?_⟩
        · simp only [writeAt, dif_pos inside, List.length_take]
          rw [Nat.min_comm, page]
        · simp only [page, capacity_writeAt, contents_writeAt clean inside]
          rw [writeAt, dif_pos inside]
      · have seen : ¬ offset < blob.page.capacity := inside
        rw [if_neg seen, writeAt, dif_neg inside]
        exact ⟨rfl, rfl⟩
  | read limit =>
      obtain ⟨taken, moved⟩ := blob.read_eq limit
      refine ⟨congrArg Reply.got taken, ?_⟩
      simp only [Blob.use, Page.use, page, moved, taken]
      rfl
  | readAt offset limit => exact ⟨rfl, rfl⟩
  | takeUnread =>
      simp only [Blob.use, Page.use, takeUnread, page, length]
      exact ⟨trivial, rfl⟩
  | clear =>
      simp only [Blob.use, Page.use, page, capacity_clear]
      exact ⟨trivial, rfl⟩

/-! ## Ranges -/

def difference? (total part : Nat) : Option Nat :=
  if part ≤ total then some (total - part) else none

def slice? (bytes : Bytes) (start stop : Nat) : Option Bytes :=
  if start ≤ stop ∧ stop ≤ bytes.length then some ((bytes.take stop).drop start) else none

def replace? (bytes : Bytes) (start stop : Nat) (others : Bytes) : Option Bytes :=
  if start ≤ stop ∧ stop ≤ bytes.length ∧ start + others.length = stop then
    some (overlay bytes start others)
  else none

end Blob

structure RawBlob where
  cells : Bytes
  length : Nat
  position : Nat
  deriving DecidableEq, Repr

namespace RawBlob

open Blob (Use Reply difference? slice? replace?)

/-- A use of a blob that fails if a difference is negative or a range is not inside its bytes. -/
def use? (raw : RawBlob) : Use → Option (Reply × RawBlob)
  | .write bytes => do
    let count := min bytes.length (← difference? raw.cells.length raw.length)
    let stop := raw.length + count
    let cells ← replace? raw.cells raw.length stop (← slice? bytes 0 count)
    some (.accepted count, { raw with cells, length := stop })
  | .writeAt offset bytes =>
    if raw.cells.length ≤ offset then some (.accepted 0, raw)
    else do
      let count := min bytes.length (← difference? raw.cells.length offset)
      let cells ← replace? raw.cells offset (offset + count) (← slice? bytes 0 count)
      some (.accepted count, { raw with cells, length := max raw.length (offset + count) })
  | .read limit => do
    let count := min limit (← difference? raw.length raw.position)
    let bytes ← slice? raw.cells raw.position (raw.position + count)
    some (.got bytes, { raw with position := raw.position + count })
  | .readAt offset limit =>
    if raw.length ≤ offset then some (.got [], raw)
    else do
      let count := min limit (← difference? raw.length offset)
      let bytes ← slice? raw.cells offset (offset + count)
      some (.got bytes, raw)
  | .takeUnread => do
    let bytes ← slice? raw.cells raw.position raw.length
    some (.got bytes, { raw with position := raw.length })
  | .clear => do
    let cells ← replace? raw.cells 0 raw.length (List.replicate raw.length 0)
    some (.cleared, { cells, length := 0, position := 0 })

end RawBlob

namespace Blob

def raw (blob : Blob) : RawBlob := ⟨blob.cells, blob.length, blob.position⟩

theorem difference?_eq {total part : Nat} (within : part ≤ total) :
    difference? total part = some (total - part) := if_pos within

theorem slice?_eq {bytes : Bytes} {start count : Nat} (inside : start + count ≤ bytes.length) :
    slice? bytes start (start + count) = some ((bytes.drop start).take count) := by
  rw [slice?, if_pos ⟨Nat.le_add_right _ _, inside⟩, List.drop_take, Nat.add_sub_cancel_left]

theorem replace?_eq {bytes others : Bytes} {start : Nat}
    (inside : start + others.length ≤ bytes.length) :
    replace? bytes start (start + others.length) others = some (overlay bytes start others) :=
  if_pos ⟨Nat.le_add_right _ _, inside, rfl⟩

theorem slice?_take (bytes : Bytes) (room : Nat) :
    slice? bytes 0 (min bytes.length room) = some (bytes.take room) := by
  have inside : 0 + min bytes.length room ≤ bytes.length := by omega
  have sliced := slice?_eq inside
  rwa [Nat.zero_add, List.drop_zero, Nat.min_comm, ← List.take_eq_take_min, Nat.min_comm] at sliced

theorem replace?_take (cells bytes : Bytes) {start : Nat} (inside : start ≤ cells.length) :
    replace? cells start (start + min bytes.length (cells.length - start))
        (bytes.take (cells.length - start)) =
      some (overlay cells start (bytes.take (cells.length - start))) := by
  have length : min bytes.length (cells.length - start) =
      (bytes.take (cells.length - start)).length := by
    rw [List.length_take, Nat.min_comm]
  rw [length]
  refine replace?_eq ?_
  rw [← length]
  omega

theorem use?_raw (blob : Blob) (use : Use) :
    blob.raw.use? use = some ((blob.use use).1, (blob.use use).2.raw) := by
  have written := blob.length_le
  have reached := blob.position_le
  have count (bytes : Bytes) (start : Nat) : min bytes.length (blob.cells.length - start) =
      (bytes.take (blob.capacity - start)).length := by
    rw [List.length_take, Nat.min_comm]
    rfl
  cases use with
  | write bytes =>
      simp only [RawBlob.use?, raw, difference?_eq written, slice?_take, replace?_take _ _ written,
        Option.bind_eq_bind, Option.bind_some]
      rw [count]
      rfl
  | writeAt offset bytes =>
      by_cases inside : offset < blob.capacity
      · have within : offset ≤ blob.cells.length := Nat.le_of_lt inside
        have proper : ¬ blob.cells.length ≤ offset := Nat.not_le.mpr inside
        simp only [RawBlob.use?, raw, if_neg proper, difference?_eq within, slice?_take,
          replace?_take _ _ within, Option.bind_eq_bind, Option.bind_some]
        simp only [Blob.use, writeAt, dif_pos inside, count]
        rfl
      · have past : blob.cells.length ≤ offset := Nat.not_lt.mp inside
        simp only [RawBlob.use?, raw, Blob.use, writeAt, dif_neg inside]
        exact if_pos past
  | read limit =>
      have inside :
          blob.position + min limit (blob.length - blob.position) ≤ blob.cells.length := by
        omega
      simp only [RawBlob.use?, raw, difference?_eq reached, slice?_eq inside, Option.bind_eq_bind,
        Option.bind_some]
      rfl
  | readAt offset limit =>
      by_cases past : blob.length ≤ offset
      · have nothing : blob.contents.drop offset = [] := by
          refine List.drop_of_length_le ?_
          rwa [length_contents]
        simp only [RawBlob.use?, raw, Blob.use, readAt, nothing, List.take_nil]
        exact if_pos past
      · have within : offset ≤ blob.length := by omega
        have inside : offset + min limit (blob.length - offset) ≤ blob.length := by omega
        have bytes : (blob.contents.drop offset).take limit =
            (blob.cells.drop offset).take (min limit (blob.length - offset)) := by
          rw [take_cells _ inside, List.take_eq_take_iff, List.length_drop, length_contents]
          omega
        simp only [RawBlob.use?, raw, if_neg past, difference?_eq within,
          slice?_eq (Nat.le_trans inside written), Option.bind_eq_bind, Option.bind_some, Blob.use,
          readAt, bytes]
  | takeUnread =>
      have stop : blob.position + (blob.length - blob.position) = blob.length := by omega
      have sliced := slice?_eq (Nat.le_trans (Nat.le_of_eq stop) written)
      rw [stop] at sliced
      simp only [RawBlob.use?, raw, sliced, Option.bind_eq_bind, Option.bind_some, Blob.use,
        takeUnread, contents, List.drop_take]
  | clear =>
      have stop : 0 + (List.replicate blob.length (0 : UInt8)).length = blob.length := by
        rw [List.length_replicate, Nat.zero_add]
      have replaced := replace?_eq (Nat.le_trans (Nat.le_of_eq stop) written)
      rw [stop] at replaced
      simp only [RawBlob.use?, raw, replaced, Option.bind_eq_bind, Option.bind_some]
      rfl

/-! ## Runs -/

/--
However blobs of any capacities are written, read, cleared and copied, they answer as pages do and
show what pages show. The read position stays within the written region and that within the
capacity, past the written region there are only zeros, and a cleared blob is a blank one, so that
nothing from before can be seen again. No use leaves a range that it works on.
-/
theorem run_bounded (capacities : Nat → Nat) (acts : List Act) :
    let (replies, blobs) := run use (fun place => blank (capacities place)) acts
    let (expected, pages) := run Page.use (fun place => { capacity := capacities place }) acts
    replies = expected ∧ ∀ place,
      (blobs place).page = pages place ∧
        (blobs place).position ≤ (blobs place).length ∧
        (blobs place).length ≤ (blobs place).capacity ∧
        (blobs place).cells.drop (blobs place).length =
          List.replicate ((blobs place).capacity - (blobs place).length) 0 ∧
        (blobs place).clear = blank (blobs place).capacity ∧
        ∀ use, (blobs place).raw.use? use =
          some (((blobs place).use use).1, ((blobs place).use use).2.raw) := by
  have stays (blob : Blob) (page : Page) (use : Use) (alike : blob.Clean ∧ blob.page = page) :
      (blob.use use).1 = (page.use use).1 ∧
        (blob.use use).2.Clean ∧ (blob.use use).2.page = (page.use use).2 := by
    obtain ⟨clean, rfl⟩ := alike
    exact ⟨(page_use clean use).1, clean.use use, (page_use clean use).2⟩
  have blankAlike (place : Nat) : (blank (capacities place)).Clean ∧
      (blank (capacities place)).page = { capacity := capacities place } := by
    refine ⟨clean_blank _, ?_⟩
    rw [page, capacity_blank]
    rfl
  obtain ⟨replies, last⟩ := run_alike stays blankAlike acts
  refine ⟨replies, fun place => ?_⟩
  obtain ⟨clean, same⟩ := last place
  exact ⟨same, Blob.position_le _, Blob.length_le _, clean, clean.clear_eq, use?_raw _⟩

/-- Bytes from before the clearing do not come up in the gap that is left behind it. -/
example :
    (run use (fun _ => blank 5) [.use 0 (.write [1, 2, 3]), .clone 1 0, .use 0 .clear,
      .use 0 (.writeAt 3 [4, 5, 6]), .use 0 .takeUnread, .use 1 (.readAt 1 9)]).1 =
      [.accepted 3, .cleared, .accepted 2, .got [0, 0, 0, 4, 5], .got [2, 3]] := by
  decide

end Blob

end Parley
