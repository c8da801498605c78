import Parley.Channel.Script

/-!
Dialogues on scripted channels. A joined dialogue is played part by part, and the bytes that a
script gives are those that its reads lose.
-/

namespace Parley

theorem Dialogue.bind_bind {α β γ : Type} (dialogue : Dialogue α) (further : α → Dialogue β)
    (last : β → Dialogue γ) :
    (dialogue.bind further).bind last = dialogue.bind fun value => (further value).bind last := by
  induction dialogue with
  | done value => rfl
  | write bytes next ih =>
      simp only [bind]
      exact congrArg _ (funext ih)
  | read limit next ih =>
      simp only [bind]
      exact congrArg _ (funext ih)

namespace Script

theorem play_bind {α β : Type} (dialogue : Dialogue α) (further : α → Dialogue β)
    (script : Script) :
    script.play (dialogue.bind further) =
      match script.play dialogue with
      | (none, later) => (none, later)
      | (some value, later) => later.play (further value) := by
  induction dialogue generalizing script with
  | done value => rfl
  | write bytes next ih =>
      simp only [Dialogue.bind, play]
      exact ih _ _
  | read limit next ih =>
      simp only [Dialogue.bind, play]
      cases script.read limit with
      | mk answer later =>
          cases answer with
          | none => rfl
          | some answer => exact ih _ _

/-- The bytes that reads still find before the stream ends or falls silent. -/
def supply : List ReadItem → Bytes
  | [] => []
  | .data bytes :: rest => bytes ++ supply rest
  | .error _ :: rest => supply rest
  | .ended :: _ => []
  | .silence :: _ => []

/-- The bytes that a script has given by the time it has become another one. -/
def given (before after : Script) : Bytes :=
  (supply before.reads).take ((supply before.reads).length - (supply after.reads).length)

theorem given_eq {before after : Script} {bytes : Bytes}
    (lost : supply before.reads = bytes ++ supply after.reads) : before.given after = bytes := by
  simp [given, lost]

def answered : Option (Except TransportError Bytes) → Bytes
  | some (.ok bytes) => bytes
  | _ => []

theorem supply_take (limit : Nat) (reads : List ReadItem) :
    supply reads = answered (take limit reads).1 ++ supply (take limit reads).2 := by
  induction reads with
  | nil => rfl
  | cons item rest ih =>
      cases item with
      | data bytes =>
          cases bytes with
          | nil => simpa [take, supply] using ih
          | cons byte bytes =>
              simp only [take, answered, supply]
              split
              · rename_i short
                rw [List.take_of_length_le short]
              · rw [supply, ← List.append_assoc, List.take_append_drop]
      | error kind => rfl
      | ended => rfl
      | silence => rfl

theorem supply_read (script : Script) (limit : Nat) :
    supply script.reads =
      answered (script.read limit).1 ++ supply (script.read limit).2.reads :=
  supply_take limit script.reads

theorem length_read {script later : Script} {limit : Nat} {bytes : Bytes}
    (found : script.read limit = (some (.ok bytes), later)) : bytes.length ≤ limit := by
  have short (reads : List ReadItem) :
      ∀ bytes, (take limit reads).1 = some (.ok bytes) → bytes.length ≤ limit := by
    induction reads with
    | nil => simp [take]
    | cons item rest ih =>
        cases item with
        | data bytes =>
            cases bytes with
            | nil => simpa [take] using ih
            | cons byte bytes =>
                intro taken same
                simp only [take, Option.some.injEq, Except.ok.injEq] at same
                rw [← same]
                exact List.length_take_le _ _
        | error kind => simp [take]
        | ended => simp [take]
        | silence => simp [take]
  apply short script.reads
  simpa [read] using congrArg Prod.fst found

theorem reads_write (script : Script) (bytes : Bytes) :
    (script.write bytes).2.reads = script.reads := by
  simp only [write]
  split <;> rfl

end Script

end Parley
