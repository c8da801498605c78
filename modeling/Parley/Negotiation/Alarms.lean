import Parley.Fault
import Parley.Settings

/-!
Alarms: what cuts a negotiation short, wherever it is. Cancellation goes before the timeout, and
either goes before a pause that ends at the same time.
-/

namespace Parley

/-- When a negotiation is cut short; times are in milliseconds. -/
structure Alarms where
  cancelAt : Option Nat
  deadline : Nat
  timeout : Nat

namespace Alarms

def starting (cancelAt : Option Nat) (settings : Settings) (now : Nat) : Alarms :=
  { cancelAt, deadline := now + settings.timeout, timeout := settings.timeout }

def timeoutFault (alarms : Alarms) : Fault := .timedOut (Span.ofMilliseconds alarms.timeout)

def rung (alarms : Alarms) (now : Nat) : Option Fault :=
  if alarms.cancelAt.any (· ≤ now) then some .cancelled
  else if alarms.deadline ≤ now then some alarms.timeoutFault
  else none

def first (alarms : Alarms) : Nat :=
  match alarms.cancelAt with
  | none => alarms.deadline
  | some cancelAt => min cancelAt alarms.deadline

def ring (alarms : Alarms) (now : Nat) : Nat × Fault :=
  let time := max now alarms.first
  (time, (alarms.rung time).getD alarms.timeoutFault)

/--
Lets time pass until the wake-up time or until an alarm rings. It gives the time that it is then,
and the fault if an alarm has rung.
-/
def sleep (alarms : Alarms) (now wake : Nat) : Nat × Option Fault :=
  let time := max now (min wake alarms.first)
  (time, alarms.rung time)

theorem isSome_rung_iff (alarms : Alarms) (now : Nat) :
    (alarms.rung now).isSome ↔ alarms.first ≤ now := by
  rcases alarms with ⟨_ | cancelAt, deadline, timeout⟩ <;> simp only [rung, first]
  · by_cases late : deadline ≤ now <;> simp [late]
  · by_cases cancelled : cancelAt ≤ now <;> by_cases late : deadline ≤ now <;>
      simp only [Option.any_some, cancelled, late, decide_true, decide_false, Bool.false_eq_true,
        if_true, if_false, Option.isSome_some, Option.isSome_none, true_iff, false_iff] <;>
      omega

theorem rung_of_early {alarms : Alarms} {now : Nat} (early : now < alarms.first) :
    alarms.rung now = none := by
  refine Option.not_isSome_iff_eq_none.mp fun rings => ?_
  have late := (alarms.isSome_rung_iff now).mp rings
  omega

end Alarms

end Parley
