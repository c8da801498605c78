import Parley.Bytes.Hex
import Parley.Fault.Transport
import Parley.Role
import Parley.Span

/-!
Faults: what ends a negotiation without an outcome. A broken transport, peer data that makes no
sense, wrong configuration and wrong delegation are faults; a refused peer is not.
-/

namespace Parley

def longestBody : Nat := 2048

def nonceLength : Nat := 16

inductive Malformation where
  | unreadable
  | longBody (message : String) (length : Nat)
  | longDeclaredBody (length : Nat)
  | nonce (length : Nat)
  | unexpectedServerProof (protocol : String)
  | unexpected (message context : String)
  | described (reason : String)
  deriving DecidableEq, Repr

namespace Malformation

def text : Malformation → String
  | .unreadable => "invalid message"
  | .longBody message length =>
    message ++ " body of " ++ toString length ++ " bytes exceeds " ++ toString longestBody
  | .longDeclaredBody length =>
    "declared body of " ++ toString length ++ " bytes exceeds " ++ toString longestBody
  | .nonce length =>
    "nonce of " ++ toString length ++ " bytes, expected " ++ toString nonceLength
  | .unexpectedServerProof protocol => "unexpected server proof for " ++ protocol
  | .unexpected message context => "unexpected " ++ message ++ " " ++ context
  | .described reason => reason

end Malformation

inductive AttributeProblem where
  | unterminatedQuote
  | emptyName
  | otherProtocol (expected actual : String)
  | unknownRole (text : String)
  | notHex (error : HexError)
  | emptyKey
  | noProtocols
  | described (reason : String)
  deriving DecidableEq, Repr

namespace AttributeProblem

def text : AttributeProblem → String
  | .unterminatedQuote => "unterminated quote"
  | .emptyName => "attribute with empty name"
  | .otherProtocol expected actual => "expected " ++ expected ++ ", got " ++ actual
  | .unknownRole text => Role.unknownMessage text
  | .notHex error => error.message
  | .emptyKey => "empty key"
  | .noProtocols => "empty protocol list"
  | .described reason => reason

end AttributeProblem

/-- What ends a negotiation without an outcome. -/
inductive Fault where
  | transport (error : TransportError)
  | channelClosed
  | channelBusy
  | malformed (problem : Malformation)
  | frameTooLarge (length capacity : Nat)
  | missingAttribute (name : String)
  | invalidAttribute (name : String) (problem : AttributeProblem)
  | unknownProtocol (name : String)
  | selfDelegation (name : String)
  | delegationCycle (chain : List String)
  | tooManyDelegations (limit : Nat) (chain : List String)
  | mixedExchange (protocol : String)
  | registryMismatch (registered produced : String)
  | timedOut (after : Span)
  | cancelled
  deriving DecidableEq, Repr

namespace Fault

def chainText (chain : List String) : String := " -> ".intercalate chain

def message : Fault → String
  | .transport error => "channel I/O error: " ++ error.text
  | .channelClosed => "channel closed by peer"
  | .channelBusy => "channel is already taken over by another handler"
  | .malformed problem => "malformed peer data: " ++ problem.text
  | .frameTooLarge length capacity =>
    "frame of " ++ toString length ++ " bytes exceeds blob capacity " ++ toString capacity
  | .missingAttribute name => "missing required attribute '" ++ name ++ "'"
  | .invalidAttribute name problem => "invalid attribute '" ++ name ++ "': " ++ problem.text
  | .unknownProtocol name => "no handler registered for protocol '" ++ name ++ "'"
  | .selfDelegation name => "handler '" ++ name ++ "' delegated to itself"
  | .delegationCycle chain => "delegation cycle: " ++ chainText chain
  | .tooManyDelegations limit chain =>
    "more than " ++ toString limit ++ " delegations: " ++ chainText chain
  | .mixedExchange protocol =>
    "handler '" ++ protocol ++ "' cannot mix channel takeover with blob exchange"
  | .registryMismatch registered produced =>
    "factory for '" ++ registered ++ "' produced handler '" ++ produced ++ "'"
  | .timedOut after => "negotiation timed out after " ++ after.text
  | .cancelled => "negotiation cancelled"

def isRetryable : Fault → Bool
  | .transport error => error.kind.isTransient
  | .channelClosed | .timedOut _ => true
  | _ => false

end Fault

end Parley
