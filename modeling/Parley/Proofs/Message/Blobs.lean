import Parley.Message.Inbox
import Parley.Message.Outbox

/-! Blobs that outboxes fill and inboxes empty. -/

namespace Parley

namespace Blob

theorem room_clear (blob : Blob) : blob.clear.room = blob.capacity := by
  rw [Blob.room, Blob.capacity_clear]
  rfl

theorem isEmpty_eq (blob : Blob) : blob.isEmpty = blob.contents.isEmpty := by
  rw [Blob.isEmpty, ← blob.length_contents]
  cases blob.contents <;> rfl

def taken (blob : Blob) : Blob := blob.takeUnread.2

theorem unread_taken (blob : Blob) : blob.taken.contents.drop blob.taken.position = [] := by
  apply List.drop_of_length_le
  rw [Blob.length_contents]
  exact Nat.le_refl _

theorem clear_taken (blob : Blob) : blob.taken.clear = blob.clear := rfl

theorem clear_write_blank (capacity : Nat) (bytes : Bytes) :
    ((blank capacity).write bytes).2.clear = blank capacity := by
  let accepted := bytes.take (blank capacity).room
  have fits : accepted.length ≤ capacity := by
    have whole : (blank capacity).room = capacity := capacity_blank capacity
    rw [List.length_take, whole]
    exact Nat.min_le_left _ _
  have cells : overlay (overlay (List.replicate capacity 0) 0 accepted) 0
      (List.replicate (0 + accepted.length) 0) = List.replicate capacity 0 := by
    simp only [overlay, List.take_zero, List.nil_append, Nat.zero_add, List.length_replicate,
      List.drop_left, List.drop_replicate, List.replicate_append_replicate]
    congr 1
    omega
  simp only [clear, write, blank, Blob.mk.injEq, and_self, and_true]
  exact cells

theorem clear_blank (capacity : Nat) : (blank capacity).clear = blank capacity := by
  have nothing : ((blank capacity).write []).2 = blank capacity := by
    simp [write, overlay, blank]
  have cleared := clear_write_blank capacity []
  rwa [nothing] at cleared

/-- The bytes that were written into a blob by the time it has become another one. -/
def gained (before after : Blob) : Bytes := after.contents.drop before.length

theorem gained_self (blob : Blob) : blob.gained blob = [] := by
  rw [gained, ← length_contents, List.drop_length]

theorem gained_write (blob : Blob) (bytes : Bytes) :
    blob.gained (blob.write bytes).2 = bytes.take blob.room := by
  rw [gained, contents_write, ← length_contents, List.drop_left]

theorem capacity_taken (blob : Blob) : blob.taken.capacity = blob.capacity := rfl

theorem capacity_load (blob : Blob) (frame : Bytes) :
    (blob.load frame).capacity = blob.capacity := by
  rw [Blob.load, Blob.capacity_write, Blob.capacity_clear]

end Blob

theorem Inbox.gained_absorb (inbox : Inbox) (blob : Blob) :
    blob.gained (inbox.absorb blob).2 = [] := by
  have same : (inbox.absorb blob).2.contents = blob.contents := rfl
  rw [Blob.gained, same, ← Blob.length_contents, List.drop_length]

theorem Outbox.fill_clear (left : Bytes) (blob : Blob) :
    (Outbox.fill ⟨left⟩ blob.clear).1 = ⟨left.drop blob.capacity⟩ ∧
      (Outbox.fill ⟨left⟩ blob.clear).2.contents = left.take blob.capacity ∧
      (Outbox.fill ⟨left⟩ blob.clear).2.capacity = blob.capacity := by
  refine ⟨?_, ?_, ?_⟩
  · simp only [Outbox.fill, Blob.write, Blob.room_clear, List.length_take, Outbox.mk.injEq]
    rcases Nat.le_total blob.capacity left.length with short | long
    · rw [Nat.min_eq_left short]
    · rw [Nat.min_eq_right long, List.drop_length, List.drop_of_length_le long]
  · simp only [Outbox.fill]
    rw [Blob.contents_write, Blob.contents_clear, Blob.room_clear, List.nil_append]
  · simp only [Outbox.fill]
    rw [Blob.capacity_write, Blob.capacity_clear]

end Parley
