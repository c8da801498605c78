import Parley.Channel.Lease
import Parley.Channel.Pipe
import Parley.Keys
import Parley.Negotiation.Alarms
import Parley.Negotiation

/-!
Two negotiations with each other over a pair of pipes. They take turns, each for as long as it can
go on; when neither can, time passes until a pause ends or an alarm rings. A pause that ends at
once does not end a turn. Both draw their nonces from one supply, and each has keys of its own.
-/

namespace Parley

inductive Activity (σ : Type) where
  | ready (phase : Phase σ)
  | talking (dialogue : Dialogue (Phase σ))
  | asleep (wake : Nat) (phase : Phase σ)
  | ended (result : Except Fault Outcome)

structure Side (κ σ : Type) where
  negotiation : Negotiation σ
  keys : κ
  alarms : Alarms
  shared : Shared End
  leased : Bool := false
  activity : Activity σ
  partly : Bytes := []
  written : List Bytes := []
  pauses : List Nat := []

structure Common where
  duplex : Duplex
  nonces : NonceSupply
  now : Nat := 0

namespace Side

variable {κ σ : Type} [HasFace σ] [Handler (Supplies κ) σ]

def starting (negotiation : Negotiation σ) (keys : κ) (shared : Shared End)
    (cancelAt : Option Nat) (now : Nat) : Side κ σ :=
  let alarms := Alarms.starting cancelAt negotiation.settings now
  let side : Side κ σ :=
    { negotiation, keys, alarms, shared, activity := .ready negotiation.phase }
  match alarms.rung now with
  | some fault => { side with activity := .ended (.error fault) }
  | none => side

def result? (side : Side κ σ) : Option (Except Fault Outcome) :=
  match side.activity with
  | .ended result => some result
  | _ => none

def release (side : Side κ σ) : Side κ σ :=
  if side.leased then
    { side with shared := { side.shared with holder := none }, leased := false }
  else side

def finish (side : Side κ σ) (result : Except Fault Outcome) : Side κ σ :=
  { side.release with activity := .ended result }

def setOut (side : Side κ σ) (now : Nat) : Action (Phase σ) → Side κ σ
  | .talk dialogue => { side with activity := .talking dialogue }
  | .pause seconds phase =>
    let wake := side.negotiation.clock.wake now (1000 * seconds)
    { side with
      activity := if wake ≤ now then .ready phase else .asleep wake phase
      pauses := side.pauses ++ [seconds] }
  | .lease next =>
    if side.shared.isLeased then { side with activity := .ready (next false) }
    else
      { side with
        activity := .ready (next true)
        shared := { side.shared with holder := some "negotiation" }
        leased := true }
  | .release phase => { side.release with activity := .ready phase }
  | .stop result => side.finish result

/-- One step of a side, unless it has ended, is asleep, or is stuck at its pipes. -/
def step (side : Side κ σ) (common : Common) : Option (Side κ σ × Common) :=
  let place := side.shared.channel
  match side.activity with
  | .ended _ => none
  | .asleep _ _ => none
  | .ready phase =>
    let advanced : Advance (Supplies κ) σ :=
      { side.negotiation with phase }.advance ⟨common.nonces, side.keys⟩
    let side :=
      { side with
        negotiation := { side.negotiation with registry := advanced.registry }
        keys := advanced.surroundings.keys }
    some (side.setOut common.now advanced.action,
      { common with nonces := advanced.surroundings.nonces })
  | .talking (.done phase) => some ({ side with activity := .ready phase }, common)
  | .talking (.write bytes next) =>
    match common.duplex.write place bytes with
    | (_, some (.ok ()), duplex) =>
      some ({ side with
          activity := .talking (next (.ok ()))
          partly := []
          written := side.written ++ [side.partly ++ bytes] },
        { common with duplex })
    | (_, some (.error error), duplex) =>
      some ({ side with activity := .talking (next (.error error)), partly := [] },
        { common with duplex })
    | (rest, none, duplex) =>
      if rest.length = bytes.length then none
      else
        some ({ side with
            activity := .talking (.write rest next)
            partly := side.partly ++ bytes.take (bytes.length - rest.length) },
          { common with duplex })
  | .talking (.read limit next) =>
    match common.duplex.read place limit with
    | none => none
    | some (bytes, duplex) =>
      some ({ side with activity := .talking (next (.ok bytes)) }, { common with duplex })

/-- The times at which a side goes on by itself, if it has not ended. -/
def times (side : Side κ σ) : List Nat :=
  match side.activity with
  | .ended _ => []
  | .asleep wake _ => [wake, side.alarms.first]
  | _ => [side.alarms.first]

def wakeUp (side : Side κ σ) (time : Nat) : Side κ σ :=
  match side.activity, side.alarms.rung time with
  | .ended _, _ => side
  | _, some fault => side.finish (.error fault)
  | .asleep wake phase, none =>
    if wake ≤ time then { side with activity := .ready phase } else side
  | _, none => side

end Side

structure Pair (κ σ : Type) where
  left : Side κ σ
  right : Side κ σ
  common : Common
  turn : End := .left
  /-- Whether the other side is known to be stuck. -/
  waiting : Bool := false

namespace Pair

variable {κ σ : Type} [HasFace σ] [Handler (Supplies κ) σ]

def step (pair : Pair κ σ) : Option (Pair κ σ) :=
  match pair.turn with
  | .left => (pair.left.step pair.common).map fun (left, common) =>
      { pair with left, common, waiting := false }
  | .right => (pair.right.step pair.common).map fun (right, common) =>
      { pair with right, common, waiting := false }

def switch (pair : Pair κ σ) : Pair κ σ :=
  { pair with
    turn := match pair.turn with
      | .left => .right
      | .right => .left
    waiting := true }

/-- Lets time pass until either side goes on by itself; nothing if both have ended. -/
def passTime (pair : Pair κ σ) : Option (Pair κ σ) :=
  (pair.left.times ++ pair.right.times).min?.map fun first =>
    let time := max pair.common.now first
    { left := pair.left.wakeUp time
      right := pair.right.wakeUp time
      common := { pair.common with now := time } }

/-- Runs both sides to their ends; nothing means that the bound on steps is too small. -/
def run : Nat → Pair κ σ → Option (Pair κ σ)
  | 0, _ => none
  | bound + 1, pair =>
    match pair.step with
    | some pair => run bound pair
    | none =>
      if pair.waiting then
        match pair.passTime with
        | some pair => run bound pair
        | none => some pair
      else run bound pair.switch

end Pair

end Parley
