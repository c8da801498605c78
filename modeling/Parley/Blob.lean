import Parley.Bytes

/-!
Blobs: buffers of fixed capacity that a driver and a handler pass to each other. A blob has a
written region, a read position inside it, and room that never grows.
-/

namespace Parley

/-- A buffer of fixed capacity with its written length and its read position. -/
structure Blob where
  cells : Bytes
  length : Nat
  position : Nat
  length_le : length ≤ cells.length
  position_le : position ≤ length

namespace Blob

def capacity (blob : Blob) : Nat := blob.cells.length

def blank (capacity : Nat) : Blob :=
  ⟨List.replicate capacity 0, 0, 0, Nat.zero_le _, Nat.le_refl _⟩

instance : Inhabited Blob := ⟨blank 0⟩

def contents (blob : Blob) : Bytes := blob.cells.take blob.length

def isEmpty (blob : Blob) : Bool := blob.length == 0

def room (blob : Blob) : Nat := blob.capacity - blob.length

def unread (blob : Blob) : Nat := blob.length - blob.position

def overlay (cells : Bytes) (offset : Nat) (bytes : Bytes) : Bytes :=
  cells.take offset ++ bytes ++ cells.drop (offset + bytes.length)

theorem length_overlay (cells : Bytes) (offset : Nat) (bytes : Bytes)
    (fits : offset + bytes.length ≤ cells.length) :
    (overlay cells offset bytes).length = cells.length := by
  simp only [overlay, List.length_append, List.length_take, List.length_drop]
  omega

def write (blob : Blob) (bytes : Bytes) : Nat × Blob :=
  let accepted := bytes.take blob.room
  (accepted.length,
    { cells := overlay blob.cells blob.length accepted
      length := blob.length + accepted.length
      position := blob.position
      length_le := by
        have := blob.length_le
        have fits : blob.length + accepted.length ≤ blob.cells.length := by
          simp only [accepted, room, capacity, List.length_take]
          omega
        rw [length_overlay _ _ _ fits]
        exact fits
      position_le := Nat.le_trans blob.position_le (Nat.le_add_right _ _) })

/--
Writes at an offset as many bytes as fit below the capacity, and tells how many. The written
region grows to hold them, with what lay in any gap; an offset at or past the capacity does
nothing.
-/
def writeAt (blob : Blob) (offset : Nat) (bytes : Bytes) : Nat × Blob :=
  let accepted := bytes.take (blob.capacity - offset)
  if inside : offset < blob.capacity then
    (accepted.length,
      { cells := overlay blob.cells offset accepted
        length := max blob.length (offset + accepted.length)
        position := blob.position
        length_le := by
          have := blob.length_le
          have fits : offset + accepted.length ≤ blob.cells.length := by
            simp only [capacity] at inside
            simp only [accepted, capacity, List.length_take]
            omega
          rw [length_overlay _ _ _ fits]
          omega
        position_le := Nat.le_trans blob.position_le (Nat.le_max_left _ _) })
  else (0, blob)

def read (blob : Blob) (limit : Nat) : Bytes × Blob :=
  let step := min limit blob.unread
  ((blob.cells.drop blob.position).take step,
    { blob with
      position := blob.position + step
      position_le := by
        have := blob.position_le
        simp only [step, unread]
        omega })

def readAt (blob : Blob) (offset limit : Nat) : Bytes := (blob.contents.drop offset).take limit

def takeUnread (blob : Blob) : Bytes × Blob :=
  (blob.contents.drop blob.position,
    { blob with position := blob.length, position_le := Nat.le_refl _ })

def clear (blob : Blob) : Blob :=
  { cells := overlay blob.cells 0 (List.replicate blob.length 0)
    length := 0
    position := 0
    length_le := Nat.zero_le _
    position_le := Nat.le_refl _ }

def load (blob : Blob) (bytes : Bytes) : Blob := (blob.clear.write bytes).2

theorem capacity_blank (capacity : Nat) : (blank capacity).capacity = capacity :=
  List.length_replicate

theorem length_contents (blob : Blob) : blob.contents.length = blob.length := by
  have := blob.length_le
  simp only [contents, List.length_take]
  omega

theorem take_overlay (cells : Bytes) (offset : Nat) (bytes : Bytes)
    (inside : offset ≤ cells.length) :
    (overlay cells offset bytes).take (offset + bytes.length) = cells.take offset ++ bytes := by
  have length : (cells.take offset ++ bytes).length = offset + bytes.length := by
    simp only [List.length_append, List.length_take]
    omega
  rw [overlay, ← length, List.take_left]

theorem contents_write (blob : Blob) (bytes : Bytes) :
    (blob.write bytes).2.contents = blob.contents ++ bytes.take blob.room :=
  take_overlay blob.cells blob.length _ blob.length_le

theorem capacity_write (blob : Blob) (bytes : Bytes) :
    (blob.write bytes).2.capacity = blob.capacity := by
  have := blob.length_le
  apply length_overlay
  simp only [room, capacity, List.length_take]
  omega

theorem contents_clear (blob : Blob) : blob.clear.contents = [] := rfl

theorem capacity_clear (blob : Blob) : blob.clear.capacity = blob.capacity := by
  apply length_overlay
  simpa using blob.length_le

theorem contents_load (blob : Blob) (bytes : Bytes) :
    (blob.load bytes).contents = bytes.take blob.capacity := by
  have room : blob.clear.room = blob.capacity := by
    rw [room, capacity_clear]
    rfl
  rw [load, contents_write, contents_clear, room, List.nil_append]

theorem unread_load {blob : Blob} {bytes : Bytes} (fits : bytes.length ≤ blob.capacity) :
    (blob.load bytes).contents.drop (blob.load bytes).position = bytes := by
  have start : (blob.load bytes).position = 0 := rfl
  rw [start, List.drop_zero, contents_load, List.take_of_length_le fits]

end Blob

end Parley
