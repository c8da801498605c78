import Parley.Lifecycle

/-!
Outcomes: how a negotiation that ran to its end came out.
-/

namespace Parley

/-- How a negotiation came out, under the protocol of the handler that ended it. -/
inductive Outcome where
  | success (protocol : String) (credential : Credential)
  | failed (protocol info : String)
  | notSupported (protocol : String)
  | noIdentity (protocol : String) (info : Option String)
  deriving DecidableEq, Repr

namespace Outcome

def protocol : Outcome → String
  | .success protocol _ => protocol
  | .failed protocol _ => protocol
  | .notSupported protocol => protocol
  | .noIdentity protocol _ => protocol

def isSuccess : Outcome → Bool
  | .success .. => true
  | _ => false

def credential : Outcome → Option Credential
  | .success _ credential => some credential
  | _ => none

def info : Outcome → Option String
  | .failed _ info => some info
  | .noIdentity _ info => info
  | _ => none

def name : Outcome → String
  | .success .. => "success"
  | .failed .. => "failed"
  | .notSupported .. => "not_supported"
  | .noIdentity .. => "no_identity"

def report (outcome : Outcome) : Json :=
  .object
    ([("outcome", .string outcome.name), ("protocol", .string outcome.protocol)] ++
      (outcome.credential.map fun credential => ("credential", credential.summary)).toList ++
      (outcome.info.map fun info => ("info", .string info)).toList)

def conclude (face : Face) : Mode → Outcome
  | .success =>
    match face.credential with
    | some credential => .success face.protocol credential
    | none => .failed face.protocol "handler reported success without a credential"
  | .noMoreData =>
    match face.credential with
    | some credential => .success face.protocol credential
    | none => .failed face.protocol (face.info.getD "exchange ended without an outcome")
  | .notSupported => .notSupported face.protocol
  | .noIdentity => .noIdentity face.protocol face.info
  | _ => .failed face.protocol (face.info.getD "authentication failed")

end Outcome

end Parley
