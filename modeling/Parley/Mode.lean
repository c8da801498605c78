import Parley.Dictionary
import Parley.Json

/-!
Processing modes: what one call of a handler answers, and so what its driver does next.
-/

namespace Parley

inductive Mode where
  | noIdentity
  | notSupported
  | failed
  | success
  | needData
  | pendingData
  | continue
  | wait (seconds : Nat)
  | noMoreData
  | delegated
  deriving DecidableEq, Repr

namespace Mode

def isTerminal : Mode → Bool
  | .success | .failed | .notSupported | .noIdentity => true
  | _ => false

def name : Mode → String
  | .noIdentity => "no_identity"
  | .notSupported => "not_supported"
  | .failed => "failed"
  | .success => "success"
  | .needData => "need_data"
  | .pendingData => "pending_data"
  | .continue => "continue"
  | .wait _ => "wait"
  | .noMoreData => "no_more_data"
  | .delegated => "delegated"

def text : Mode → String
  | .wait seconds => "wait(" ++ toString seconds ++ "s)"
  | mode => mode.name

def plain : List Mode :=
  [.noIdentity, .notSupported, .failed, .success, .needData, .pendingData, .continue, .noMoreData,
    .delegated]

def ofName? (name : String) : Option Mode := plain.find? (fun mode => mode.name = name)

def toJson : Mode → Json
  | .wait seconds => .object [("wait", .object [("seconds", .integer seconds)])]
  | mode => .string mode.name

def secondsOfJson? (fields : List (String × Json)) : Option Nat :=
  match (Dictionary.ofList fields).get? "seconds" with
  | some (.integer (.ofNat seconds)) => if seconds < UInt32.size then some seconds else none
  | _ => none

def ofJson? : Json → Option Mode
  | .string name => ofName? name
  | .object fields =>
    match (Dictionary.ofList fields).entries with
    | [("wait", .object inner)] => (secondsOfJson? inner).map .wait
    | [(name, .null)] => ofName? name
    | _ => none
  | _ => none

end Mode

end Parley
