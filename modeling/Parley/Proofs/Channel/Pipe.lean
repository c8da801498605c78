import Parley.Channel.Pipe

/-!
Pairs of open pipes of one capacity, as they look from one of their ends: what is on its way to that
end, and what is on its way from it.
-/

namespace Parley.Duplex

def between (capacity : Nat) (place : End) (here there : Bytes) : Duplex :=
  let arriving : Pipe := { capacity := some capacity, queued := here }
  let leaving : Pipe := { capacity := some capacity, queued := there }
  match place with
  | .left => ⟨leaving, arriving⟩
  | .right => ⟨arriving, leaving⟩

variable {capacity : Nat} {place : End} {here there bytes : Bytes}

theorem write_between :
    (between capacity place here there).write place bytes =
      let taken := min bytes.length (capacity - there.length)
      (bytes.drop taken, if (bytes.drop taken).isEmpty then some (.ok ()) else none,
        between capacity place here (there ++ bytes.take taken)) := by
  cases place <;> rfl

theorem write_of_room (room : (there ++ bytes).length ≤ capacity) :
    (between capacity place here there).write place bytes =
      ([], some (.ok ()), between capacity place here (there ++ bytes)) := by
  rw [List.length_append] at room
  have all : min bytes.length (capacity - there.length) = bytes.length := by omega
  simp [write_between, all]

theorem write_split {rest : Bytes} {answer : Option (Except TransportError Unit)}
    {duplex : Duplex}
    (taken : (between capacity place here there).write place bytes = (rest, answer, duplex)) :
    ∃ part, bytes = part ++ rest ∧ duplex = between capacity place here (there ++ part) ∧
      (there.length ≤ capacity → (there ++ part).length ≤ capacity) ∧
      answer = if rest.isEmpty then some (.ok ()) else none := by
  rw [write_between] at taken
  obtain ⟨rfl, rfl, rfl⟩ := taken
  refine ⟨_, (List.take_append_drop _ _).symm, rfl, fun short => ?_, rfl⟩
  rw [List.length_append, List.length_take]
  omega

theorem read_between (limit : Nat) :
    (between capacity place here there).read place limit =
      if here = [] then none
      else some (here.take limit, between capacity place (here.drop limit) there) := by
  cases here <;> cases place <;> simp [Duplex.read, Pipe.pull, between, incoming, setIncoming]

end Parley.Duplex
