import Parley.Handler
import Parley.Message.Inbox
import Parley.Message.Outbox
import Parley.SharedKey.Transcript

/-!
The state of a shared-key handler, and what both of its sides do with it: they look up keys, queue
messages and reject the other side.
-/

namespace Parley

inductive Step where
  | start
  | awaitChallenge
  | awaitVerdict
  | awaitHello
  | awaitProof
  | done
  deriving DecidableEq, Repr

namespace Step

def name : Step → String
  | .start => "Start"
  | .awaitChallenge => "AwaitChallenge"
  | .awaitVerdict => "AwaitVerdict"
  | .awaitHello => "AwaitHello"
  | .awaitProof => "AwaitProof"
  | .done => "Done"

end Step

inductive Refusal where
  | otherProtocol (requested spoken : String)
  | emptyUser
  | noKey (user : String)
  | wrongClientProof
  | noServerProof
  | wrongServerProof
  deriving DecidableEq, Repr

namespace Refusal

def text : Refusal → String
  | .otherProtocol requested spoken =>
    "client requested protocol " ++ requested ++ ", this server speaks " ++ spoken
  | .emptyUser => "empty user name"
  | .noKey user => "no key for user " ++ user
  | .wrongClientProof => "client failed to prove knowledge of the shared key"
  | .noServerProof => "server sent no proof"
  | .wrongServerProof => "server failed to prove knowledge of the shared key"

end Refusal

def defaultServerName : String := "styx"

/-- The capacity of the blob that a takeover works with; it holds any message. -/
def takeoverCapacity : Nat := 2 + longestBody

structure SharedKey where
  lifecycle : Lifecycle
  variant : Variant
  /-- A key from the attributes, which goes before the store. -/
  ownKey : Option SecretKey := none
  serverName : String := defaultServerName
  inbox : Inbox := {}
  outbox : Outbox := {}
  afterSend : Option Settlement := none
  /-- A message that has to wait for a locked key. -/
  deferred : Option Message := none
  consuming : Bool := false
  desk : Blob := Blob.blank takeoverCapacity
  step : Step := .start
  key : Option SecretKey := none
  user : Option String := none
  clientNonce : Bytes := []
  serverNonce : Bytes := []
  peerName : Option String := none

namespace SharedKey

variable {κ : Type} [KeyStore κ]

def fresh (variant : Variant) : SharedKey :=
  { lifecycle := Lifecycle.fresh variant.protocol, variant }

instance : HasFace SharedKey := ⟨fun handler => handler.lifecycle.face⟩

def protocol (handler : SharedKey) : String := handler.variant.protocol

def lookup (handler : SharedKey) (user : String) (supplies : Supplies κ) :
    KeyLookup × Supplies κ :=
  match handler.ownKey with
  | some key => (.found key, supplies)
  | none => supplies.lookup user

def reply (handler : SharedKey) (message : Message) (settlement : Settlement) :
    SharedKey × Answer :=
  match handler.outbox.queue message with
  | .error fault => (handler, .error fault)
  | .ok outbox => ({ handler with outbox, afterSend := some settlement }, .ok .pendingData)

def reject (handler : SharedKey) (refusal : Refusal) : SharedKey × Answer :=
  { handler with step := .done }.reply (.verdict false refusal.text) (.fail refusal.text)

def malformed (handler : SharedKey) (problem : Malformation) : SharedKey × Answer :=
  (handler, .error (.malformed problem))

def transcript (handler : SharedKey) (purpose : Purpose) (first second : Bytes) (user : String) :
    Transcript :=
  { variant := handler.variant, purpose, first, second, user }

def sessionKey (handler : SharedKey) (key : SecretKey) (user : String) : Bytes :=
  (handler.transcript .session handler.clientNonce handler.serverNonce user).tag key

def onRejection (handler : SharedKey) (reason : String) : SharedKey × Answer :=
  ({ handler with step := .done, lifecycle := handler.lifecycle.fail reason }, .ok .failed)

end SharedKey

end Parley
