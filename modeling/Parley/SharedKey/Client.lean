import Parley.SharedKey.State

/-!
The client's side of a shared-key handshake: it says hello, answers a challenge with its proof once
it is content with the server, and takes the verdict.
-/

namespace Parley.SharedKey

variable {κ : Type} [KeyStore κ]

def sayHello (handler : SharedKey) (user : String) (supplies : Supplies κ) :
    SharedKey × Supplies κ × Answer :=
  match supplies.drawNonce with
  | (none, supplies) =>
    (handler, supplies, .error (.transport ⟨.other, some "system randomness unavailable"⟩))
  | (some own, supplies) =>
    let (handler, answer) :=
      { handler with clientNonce := own.bytes, step := .awaitChallenge }.reply
        (.hello handler.protocol user own.bytes) .await
    (handler, supplies, answer)

/-- What is wrong with the server's proof, if it does not satisfy the variant. -/
def checkServerProof (handler : SharedKey) (key : SecretKey) (user : String) (nonce : Bytes) :
    Option Bytes → Except Malformation (Option Refusal)
  | some tag =>
    if handler.variant.isMutual then
      if (handler.transcript .server handler.clientNonce nonce user).tag key = tag then .ok none
      else .ok (some .wrongServerProof)
    else .error (.unexpectedServerProof handler.protocol)
  | none => .ok (if handler.variant.isMutual then some .noServerProof else none)

def onChallenge (handler : SharedKey) (server : String) (nonce : Bytes) (tag : Option Bytes) :
    SharedKey × Answer :=
  if nonce.length ≠ nonceLength then handler.malformed (.nonce nonce.length)
  else
    match handler.key, handler.user with
    | some key, some user =>
      match handler.checkServerProof key user nonce tag with
      | .error problem => handler.malformed problem
      | .ok (some refusal) => handler.reject refusal
      | .ok none =>
        let answer := (handler.transcript .client nonce handler.clientNonce user).tag key
        { handler with
          serverNonce := nonce
          peerName := some server
          step := .awaitVerdict }.reply (.proof answer) .await
    | _, _ => (handler, .ok .noIdentity)

def onAcceptance (handler : SharedKey) : SharedKey × Answer :=
  match handler.key, handler.user with
  | some key, some user =>
    let credential : Credential :=
      ⟨handler.peerName.getD defaultServerName, handler.protocol, handler.sessionKey key user⟩
    ({ handler with step := .done, lifecycle := handler.lifecycle.succeed credential },
      .ok .success)
  | _, _ => (handler, .ok .noIdentity)

def onClientMessage (handler : SharedKey) : Message → SharedKey × Answer
  | .challenge server nonce tag =>
    if handler.step = .awaitChallenge then handler.onChallenge server nonce tag
    else handler.malformed (.unexpected "challenge" ("while client is in " ++ handler.step.name))
  | .verdict true _ =>
    if handler.step = .awaitVerdict then handler.onAcceptance
    else handler.malformed (.unexpected "verdict" ("while client is in " ++ handler.step.name))
  | .verdict false reason =>
    if handler.step = .awaitChallenge ∨ handler.step = .awaitVerdict then
      handler.onRejection ("server rejected authentication: " ++ reason)
    else handler.malformed (.unexpected "verdict" ("while client is in " ++ handler.step.name))
  | message =>
    handler.malformed (.unexpected message.name ("while client is in " ++ handler.step.name))

end Parley.SharedKey
