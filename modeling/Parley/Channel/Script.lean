import Parley.Channel.Dialogue

/-!
Scripted channels: the reads are written beforehand and the writes are recorded.
-/

namespace Parley

inductive ReadItem where
  /-- Bytes that are there; a read takes no more than the rest of one item. -/
  | data (bytes : Bytes)
  | error (kind : TransportKind)
  | ended
  | silence
  deriving DecidableEq, Repr

inductive WriteItem where
  | data (bytes : Bytes)
  | closed
  deriving DecidableEq, Repr

namespace WriteItem

def bytes? : WriteItem → Option Bytes
  | .data bytes => some bytes
  | .closed => none

end WriteItem

/-- A channel whose reads are written beforehand; past the last item the stream has ended. -/
structure Script where
  reads : List ReadItem := []
  writeLimit : Option (Nat × TransportKind) := none
  record : List WriteItem := []
  deriving DecidableEq

namespace Script

def written (script : Script) : List Bytes := script.record.filterMap WriteItem.bytes?

/-- Takes at most the given number of bytes; nothing means that the read never returns. -/
def take (limit : Nat) :
    List ReadItem → Option (Except TransportError Bytes) × List ReadItem
  | [] => (some (.ok []), [])
  | .data [] :: rest => take limit rest
  | .data bytes :: rest =>
    (some (.ok (bytes.take limit)),
      if bytes.length ≤ limit then rest else .data (bytes.drop limit) :: rest)
  | .error kind :: rest => (some (.error { kind }), rest)
  | .ended :: rest => (some (.ok []), .ended :: rest)
  | .silence :: rest => (none, .silence :: rest)

def read (script : Script) (limit : Nat) : Option (Except TransportError Bytes) × Script :=
  let (answer, reads) := take limit script.reads
  (answer, { script with reads })

def write (script : Script) (bytes : Bytes) : Except TransportError Unit × Script :=
  match script.writeLimit.filter (fun limit => limit.1 ≤ script.written.length) with
  | some (_, kind) => (.error { kind }, script)
  | none => (.ok (), { script with record := script.record ++ [.data bytes] })

def close (script : Script) : Script := { script with record := script.record ++ [.closed] }

/-- Carries out a dialogue; nothing means that a read of it never returns. -/
def play {α : Type} : Dialogue α → Script → Option α × Script
  | .done value, script => (some value, script)
  | .write bytes next, script =>
    let (answer, script) := script.write bytes
    play (next answer) script
  | .read limit next, script =>
    match script.read limit with
    | (none, script) => (none, script)
    | (some answer, script) => play (next answer) script

end Script

end Parley
