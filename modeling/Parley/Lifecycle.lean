import Parley.Credential
import Parley.Fault
import Parley.Identity
import Parley.Mode

/-!
The lifecycle that all handlers of this library share. It keeps the credential exactly while the
last terminal answer was success, answers a repeated call with the mode that ended the handler,
and refuses to mix the two ways of exchanging data.
-/

namespace Parley

/-- What a handler shows to whoever drives it. -/
structure Face where
  protocol : String
  identity : Option Identity := none
  role : Option Role := none
  info : Option String := none
  credential : Option Credential := none
  deriving DecidableEq

class HasFace (σ : Type) where
  face : σ → Face

export HasFace (face)

inductive ExchangeKind where
  | takeover
  | blob
  deriving DecidableEq, Repr

inductive Stage where
  | unbound
  | bound
  | exchanging
  | finished (mode : Mode)
  deriving DecidableEq, Repr

/-- What happens once the queued data is sent. -/
inductive Settlement where
  | await
  | succeed (credential : Credential)
  | fail (reason : String)
  | delegate (successor : String)
  deriving DecidableEq, Repr

abbrev Answer := Except Fault Mode

/-- The part of a handler's state that does not depend on its protocol. -/
structure Lifecycle where
  face : Face
  stage : Stage := .unbound
  exchange : Option ExchangeKind := none
  deriving DecidableEq

namespace Lifecycle

def fresh (protocol : String) : Lifecycle := { face := { protocol } }

def role (lifecycle : Lifecycle) : Option Role := lifecycle.face.role

def identity (lifecycle : Lifecycle) : Option Identity := lifecycle.face.identity

def bind (lifecycle : Lifecycle) (identity : Option Identity) (role : Role) : Lifecycle :=
  { lifecycle with
    face := { protocol := lifecycle.face.protocol, identity, role := some role }
    stage := .bound }

def refuse (lifecycle : Lifecycle) (reason : String) : Lifecycle :=
  { lifecycle with
    face := { protocol := lifecycle.face.protocol, info := some reason }
    stage := .unbound }

def adopt (lifecycle : Lifecycle) (identity : Identity) : Lifecycle :=
  { lifecycle with face := { lifecycle.face with identity := some identity } }

/--
Opens a call of the given kind. Either the call is answered at once, by the mode of an ended or
unbound handler or because it mixes the kinds, or the handler goes on.
-/
def enter (lifecycle : Lifecycle) (kind : ExchangeKind) : Lifecycle × Option Answer :=
  match lifecycle.stage with
  | .unbound => (lifecycle, some (.ok .noIdentity))
  | stage =>
    if lifecycle.exchange.any (· ≠ kind) then
      ({ lifecycle with face := { lifecycle.face with credential := none } },
        some (.error (.mixedExchange lifecycle.face.protocol)))
    else
      match stage with
      | .finished mode => ({ lifecycle with exchange := some kind }, some (.ok mode))
      | _ => ({ lifecycle with exchange := some kind, stage := .exchanging }, none)

def finish (lifecycle : Lifecycle) (mode : Mode) (credential : Option Credential)
    (info : Option String) : Lifecycle :=
  { lifecycle with
    face := { lifecycle.face with credential, info }
    stage := .finished mode }

/-- Closes a call: a fault ends the handler as failed and becomes its info. -/
def settle (lifecycle : Lifecycle) : Answer → Lifecycle
  | .ok _ => lifecycle
  | .error fault => lifecycle.finish .failed none (some fault.message)

def succeed (lifecycle : Lifecycle) (credential : Credential) : Lifecycle :=
  lifecycle.finish .success (some credential) none

def fail (lifecycle : Lifecycle) (reason : String) : Lifecycle :=
  lifecycle.finish .failed none (some reason)

def delegate (lifecycle : Lifecycle) (successor : String) : Lifecycle :=
  lifecycle.finish .delegated none (some successor)

def decline (lifecycle : Lifecycle) : Lifecycle :=
  lifecycle.finish .notSupported none lifecycle.face.info

def apply (lifecycle : Lifecycle) : Settlement → Lifecycle × Mode
  | .await => (lifecycle, .needData)
  | .succeed credential => (lifecycle.succeed credential, .success)
  | .fail reason => (lifecycle.fail reason, .failed)
  | .delegate successor => (lifecycle.delegate successor, .delegated)

end Lifecycle

end Parley
