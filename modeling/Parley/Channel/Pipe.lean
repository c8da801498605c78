import Parley.Channel.Dialogue

/-!
Pipes: streams in memory. A pipe holds a bounded or unbounded number of bytes; a pair of pipes
joins two ends.
-/

namespace Parley

structure Pipe where
  /-- How many bytes it holds; without a capacity it never fills. -/
  capacity : Option Nat := none
  queued : Bytes := []
  closed : Bool := false
  deriving DecidableEq

namespace Pipe

def room (pipe : Pipe) (count : Nat) : Nat :=
  match pipe.capacity with
  | none => count
  | some capacity => min count (capacity - pipe.queued.length)

def push (pipe : Pipe) (bytes : Bytes) : Bytes × Pipe :=
  let count := pipe.room bytes.length
  (bytes.drop count, { pipe with queued := pipe.queued ++ bytes.take count })

/-- Gives at most the given number of bytes; nothing while it is empty and open. -/
def pull (pipe : Pipe) (limit : Nat) : Option (Bytes × Pipe) :=
  if pipe.queued.isEmpty && !pipe.closed then none
  else some (pipe.queued.take limit, { pipe with queued := pipe.queued.drop limit })

end Pipe

inductive End where
  | left
  | right
  deriving DecidableEq, Repr

structure Duplex where
  fromLeft : Pipe
  fromRight : Pipe
  deriving DecidableEq

namespace Duplex

def ofCapacity (capacity : Option Nat) : Duplex := ⟨{ capacity }, { capacity }⟩

def outgoing (duplex : Duplex) : End → Pipe
  | .left => duplex.fromLeft
  | .right => duplex.fromRight

def incoming (duplex : Duplex) : End → Pipe
  | .left => duplex.fromRight
  | .right => duplex.fromLeft

def setOutgoing (duplex : Duplex) (side : End) (pipe : Pipe) : Duplex :=
  match side with
  | .left => { duplex with fromLeft := pipe }
  | .right => { duplex with fromRight := pipe }

def setIncoming (duplex : Duplex) (side : End) (pipe : Pipe) : Duplex :=
  match side with
  | .left => { duplex with fromRight := pipe }
  | .right => { duplex with fromLeft := pipe }

def close (duplex : Duplex) (side : End) : Duplex :=
  duplex.setOutgoing side { duplex.outgoing side with closed := true }

def drop (duplex : Duplex) (side : End) : Duplex :=
  (duplex.close side).setIncoming side { duplex.incoming side with closed := true }

/-- Takes bytes from an end and tells how writing them ended; nothing while some are left. -/
def write (duplex : Duplex) (side : End) (bytes : Bytes) :
    Bytes × Option (Except TransportError Unit) × Duplex :=
  let pipe := duplex.outgoing side
  if pipe.closed then (bytes, some (.error { kind := .brokenPipe }), duplex)
  else
    let (rest, pipe) := pipe.push bytes
    (rest, if rest.isEmpty then some (.ok ()) else none, duplex.setOutgoing side pipe)

def read (duplex : Duplex) (side : End) (limit : Nat) : Option (Bytes × Duplex) :=
  ((duplex.incoming side).pull limit).map fun (bytes, pipe) =>
    (bytes, duplex.setIncoming side pipe)

def play {α : Type} (side : End) : Dialogue α → Duplex → Option α × Duplex
  | .done value, duplex => (some value, duplex)
  | .write bytes next, duplex =>
    match duplex.write side bytes with
    | (_, none, duplex) => (none, duplex)
    | (_, some answer, duplex) => play side (next answer) duplex
  | .read limit next, duplex =>
    match duplex.read side limit with
    | none => (none, duplex)
    | some (bytes, duplex) => play side (next (.ok bytes)) duplex

end Duplex

end Parley
