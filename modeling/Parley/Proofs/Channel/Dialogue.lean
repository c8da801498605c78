import Parley.Channel.Frame
import Parley.Proofs.Channel.Script

/-!
What dialogues may come to when nothing is known of the channel: any answer to a write, and any
answer to a read that keeps to its limit.
-/

namespace Parley

/-- Some answers of a channel let the dialogue end in the value. -/
inductive Dialogue.Leads {α : Type} : Dialogue α → α → Prop
  | done (value : α) : Leads (.done value) value
  | write {bytes : Bytes} {next : Except TransportError Unit → Dialogue α} {value : α}
      (answer : Except TransportError Unit) (later : Leads (next answer) value) :
      Leads (.write bytes next) value
  | read {limit : Nat} {next : Except TransportError Bytes → Dialogue α} {value : α}
      (answer : Except TransportError Bytes)
      (short : ∀ bytes, answer = .ok bytes → bytes.length ≤ limit)
      (later : Leads (next answer) value) : Leads (.read limit next) value

namespace Dialogue

variable {α β : Type}

theorem leads_done_iff {value other : α} : (Dialogue.done value).Leads other ↔ other = value := by
  constructor
  · intro leads
    cases leads
    rfl
  · rintro rfl
    exact .done _

theorem exists_leads (dialogue : Dialogue α) : ∃ value, dialogue.Leads value := by
  induction dialogue with
  | done value => exact ⟨value, .done value⟩
  | write bytes next ih =>
      obtain ⟨value, leads⟩ := ih (.ok ())
      exact ⟨value, .write _ leads⟩
  | read limit next ih =>
      obtain ⟨value, leads⟩ := ih (.ok [])
      exact ⟨value, .read (.ok []) (by simp) leads⟩

theorem leads_bind_iff {dialogue : Dialogue α} {further : α → Dialogue β} {value : β} :
    (dialogue.bind further).Leads value ↔
      ∃ middle, dialogue.Leads middle ∧ (further middle).Leads value := by
  constructor
  · intro leads
    induction dialogue with
    | done middle => exact ⟨middle, .done middle, leads⟩
    | write bytes next ih =>
        cases leads with
        | write answer later =>
            obtain ⟨middle, first, second⟩ := ih answer later
            exact ⟨middle, .write answer first, second⟩
    | read limit next ih =>
        cases leads with
        | read answer short later =>
            obtain ⟨middle, first, second⟩ := ih answer later
            exact ⟨middle, .read answer short first, second⟩
  · rintro ⟨middle, first, second⟩
    induction first with
    | done middle => exact second
    | write answer _ ih => exact .write answer (ih second)
    | read answer short _ ih => exact .read answer short (ih second)

end Dialogue

theorem Script.leads_of_play {α : Type} {dialogue : Dialogue α} {script later : Script} {value : α}
    (played : script.play dialogue = (some value, later)) : dialogue.Leads value := by
  induction dialogue generalizing script with
  | done middle =>
      simp only [play, Prod.mk.injEq, Option.some.injEq] at played
      exact played.1 ▸ .done middle
  | write bytes next ih => exact .write _ (ih _ played)
  | read limit next ih =>
      simp only [play] at played
      rcases found : script.read limit with ⟨_ | answer, middle⟩
      · simp [found] at played
      · rw [found] at played
        refine .read answer ?_ (ih answer played)
        rintro bytes rfl
        exact length_read found

inductive Frame.Fails : Fault → Prop
  | sending {payload : Bytes} {fault : Fault} (sent : (Frame.send payload).Leads (.error fault)) :
      Fails fault
  | receiving {limit : Nat} {fault : Fault}
      (received : (Frame.receive limit).Leads (.error fault)) : Fails fault

end Parley
