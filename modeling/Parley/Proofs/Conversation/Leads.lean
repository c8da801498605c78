import Parley.Proofs.Conversation.Turns

/-!
What a side comes to by doing nothing but things of its own. Such a stretch may come before anything
that the side has to say or to hear, and before its end.
-/

namespace Parley.Conversation

variable {X S α : Type} (acts : X → S → Act α → X → S → Prop)

/-- A side can only do things of its own until it has come to a goal. -/
inductive Leads (goal : X → Prop) : X → Prop
  | here {x : X} (reached : goal x) : Leads goal x
  | quiet {x : X} {y : S → X} (quiet : Quiet acts x y) (leads : ∀ shared, Leads goal (y shared)) :
      Leads goal x

variable {acts} {x y : X} {now after : S} {left : List α}

theorem Leads.of_each {goal : X → Prop}
    (each : ∀ shared, ∃ y, QuietAt acts shared x shared y ∧ Leads acts goal y) :
    Leads acts goal x :=
  .quiet (fun shared => (Classical.choose_spec (each shared)).1)
    fun shared => (Classical.choose_spec (each shared)).2

theorem Leads.imp {goal other : X → Prop} (leads : Leads acts goal x)
    (implies : ∀ y, goal y → other y) : Leads acts other x := by
  induction leads with
  | here reached => exact .here (implies _ reached)
  | quiet quiet _ ih => exact .quiet quiet ih

theorem Leads.speaks {next : X → Prop} (someLeft : left ≠ [])
    (leads : Leads acts (Speaks acts next after left now) x) :
    Speaks acts next after left now x := by
  induction leads with
  | here reached => exact reached
  | quiet quiet _ ih => exact .quiet someLeft (quiet now) (ih now)

theorem Leads.hears {next : X → Prop} (someLeft : left ≠ [])
    (leads : Leads acts (Hears acts next left) x) : Hears acts next left x := by
  induction leads with
  | here reached => exact reached
  | quiet quiet _ ih => exact .quiet someLeft quiet ih

theorem Leads.over {good : X → Prop} (leads : Leads acts (Over acts good) x) :
    Over acts good x := by
  induction leads with
  | here reached => exact reached
  | quiet quiet _ ih => exact .quiet quiet ih

end Parley.Conversation
