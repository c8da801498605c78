import Parley.Negotiation.Run

/-!
Retries: a negotiation is tried again on a fresh connection when it ended with a fault that a fresh
connection may cure, but only so often and not once it is cancelled. Outcomes are never retried.
Some time passes between two attempts, and the negotiation may be cancelled meanwhile.
-/

namespace Parley

/--
What an attempt is given, and the milliseconds that it waits before it asks. Delays are drawn at
random within bounds, so any may come up.
-/
structure Connection where
  channel : Except Fault Script
  cancels : Bool := false
  delay : Nat := 0

structure Attempts (ω σ : Type) where
  result : Except Fault Outcome
  written : List (List Bytes)
  pauses : List Nat
  registry : Registry σ
  surroundings : ω
  now : Nat
  cancelAt : Option Nat

namespace Attempts

variable {ω σ : Type}

def isCancelled (attempts : Attempts ω σ) : Bool := attempts.cancelAt.any (· ≤ attempts.now)

def isRetried (attempts : Attempts ω σ) : Bool :=
  match attempts.result with
  | .ok _ => false
  | .error fault => fault.isRetryable && !attempts.isCancelled

def append (first later : Attempts ω σ) : Attempts ω σ :=
  { later with
    written := first.written ++ later.written
    pauses := first.pauses ++ later.pauses }

end Attempts

namespace Negotiation

variable {ω σ : Type} [HasFace σ] [Handler ω σ]

def attempt (bound : Nat) (cancelAt : Option Nat) (negotiation : Negotiation σ)
    (surroundings : ω) (now : Nat) (connection : Connection) : Option (Attempts ω σ) :=
  let now := now + connection.delay
  let cancelAt := if connection.cancels then some now else cancelAt
  match connection.channel with
  | .error fault =>
    some ⟨.error fault, [[]], [], negotiation.registry, surroundings, now, cancelAt⟩
  | .ok channel =>
    (negotiation.run bound cancelAt surroundings { shared := { channel }, now }).map fun ended =>
      ⟨ended.result, [ended.scene.shared.channel.written], ended.scene.pauses, ended.registry,
        ended.surroundings, ended.scene.now, cancelAt⟩

/--
Makes attempts until one is not retried or no further one is left. The attempts are numbered from
zero, and a connection is asked for once for each.
-/
def attemptsFrom (bound : Nat) (connect : Nat → Connection) :
    Nat → Nat → Option Nat → Negotiation σ → ω → Nat → Option (Attempts ω σ)
  | 0, number, cancelAt, negotiation, surroundings, now =>
    negotiation.attempt bound cancelAt surroundings now (connect number)
  | left + 1, number, cancelAt, negotiation, surroundings, now =>
    match negotiation.attempt bound cancelAt surroundings now (connect number) with
    | none => none
    | some first =>
      if first.isRetried then
        (attemptsFrom bound connect left (number + 1) first.cancelAt
          { negotiation with registry := first.registry } first.surroundings first.now).map
          first.append
      else some first

def runWithRetry (bound : Nat) (cancelAt : Option Nat) (connect : Nat → Connection)
    (negotiation : Negotiation σ) (surroundings : ω) : Option (Attempts ω σ) :=
  attemptsFrom bound connect negotiation.settings.maxRetries 0 cancelAt negotiation surroundings 0

end Negotiation

end Parley
