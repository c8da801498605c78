import Parley.Message.Inbox

/-!
Inboxes and the bytes behind a message: once a message is complete, later bytes do not change it.
-/

namespace Parley.Inbox

theorem next_eq_some_iff {bytes rest : Bytes} {message : Message} :
    next ⟨bytes⟩ = .ok (some (message, ⟨rest⟩)) ↔
      ∃ high low body, bytes = high :: low :: (body ++ rest) ∧
        body.length = Bytes.number [high, low] ∧ body.length ≤ longestBody ∧
        Message.decode body = .ok message := by
  constructor
  · intro found
    rw [next.eq_def] at found
    split at found
    · rename_i high low stored same
      dsimp only at same found
      split at found
      · cases found
      · split at found
        · cases found
        · split at found
          · cases found
          · rename_i short complete _ decoded
            simp only [Except.ok.injEq, Option.some.injEq, Prod.mk.injEq, mk.injEq] at found
            obtain ⟨rfl, rfl⟩ := found
            have length : (stored.take (Bytes.number [high, low])).length =
                Bytes.number [high, low] := by
              rw [List.length_take]
              omega
            refine ⟨high, low, stored.take (Bytes.number [high, low]), ?_, length, by omega,
              decoded⟩
            rw [List.take_append_drop, same]
    · cases found
  · rintro ⟨high, low, body, rfl, length, short, decoded⟩
    simp only [next, ← length, List.length_append, List.take_left, List.drop_left, decoded]
    rw [if_neg (by omega), if_neg (by omega)]

theorem next_append {inbox rest : Inbox} {message : Message}
    (found : inbox.next = .ok (some (message, rest))) (more : Bytes) :
    next ⟨inbox.bytes ++ more⟩ = .ok (some (message, ⟨rest.bytes ++ more⟩)) := by
  obtain ⟨high, low, body, same, length, short, decoded⟩ := next_eq_some_iff.mp found
  refine next_eq_some_iff.mpr ⟨high, low, body, ?_, length, short, decoded⟩
  rw [same, List.cons_append, List.cons_append, List.append_assoc]

end Parley.Inbox
