import Parley.SharedKey.State

/-!
The server's side of a shared-key handshake: it answers a hello with a challenge and a proof with
its verdict, and it waits while the user's key is locked.
-/

namespace Parley.SharedKey

variable {κ : Type} [KeyStore κ]

def challenge (handler : SharedKey) (user : String) (nonce : Bytes) (key : SecretKey)
    (supplies : Supplies κ) : SharedKey × Supplies κ × Answer :=
  match supplies.drawNonce with
  | (none, supplies) =>
    (handler, supplies, .error (.transport ⟨.other, some "system randomness unavailable"⟩))
  | (some own, supplies) =>
    let tag :=
      if handler.variant.isMutual then
        some ((handler.transcript .server nonce own.bytes user).tag key)
      else none
    let (handler, answer) :=
      { handler with
        key := some key
        user := some user
        clientNonce := nonce
        serverNonce := own.bytes
        step := .awaitProof }.reply (.challenge handler.serverName own.bytes tag) .await
    (handler, supplies, answer)

def onHello (handler : SharedKey) (protocol user : String) (nonce : Bytes)
    (supplies : Supplies κ) : SharedKey × Supplies κ × Answer :=
  let without (result : SharedKey × Answer) := (result.1, supplies, result.2)
  if nonce.length ≠ nonceLength then without (handler.malformed (.nonce nonce.length))
  else if protocol ≠ handler.protocol then
    without (handler.reject (.otherProtocol protocol handler.protocol))
  else if user.isEmpty then without (handler.reject .emptyUser)
  else
    match handler.lookup user supplies with
    | (.found key, supplies) => handler.challenge user nonce key supplies
    | (.missing, supplies) =>
      let (handler, answer) := handler.reject (.noKey user)
      (handler, supplies, answer)
    | (.locked seconds, supplies) =>
      ({ handler with deferred := some (.hello protocol user nonce) }, supplies,
        .ok (.wait seconds))

def onProof (handler : SharedKey) (tag : Bytes) : SharedKey × Answer :=
  match handler.key, handler.user with
  | some key, some user =>
    let expected :=
      (handler.transcript .client handler.serverNonce handler.clientNonce user).tag key
    if expected = tag then
      let credential : Credential := ⟨user, handler.protocol, handler.sessionKey key user⟩
      let lifecycle :=
        if handler.lifecycle.identity.isNone then
          handler.lifecycle.adopt ⟨user, handler.protocol⟩
        else handler.lifecycle
      { handler with step := .done, lifecycle }.reply (.verdict true "") (.succeed credential)
    else handler.reject .wrongClientProof
  | _, _ => (handler, .ok .noIdentity)

def onServerMessage (handler : SharedKey) (message : Message) (supplies : Supplies κ) :
    SharedKey × Supplies κ × Answer :=
  let without (result : SharedKey × Answer) := (result.1, supplies, result.2)
  let context := "while server is in " ++ handler.step.name
  match message with
  | .hello protocol user nonce =>
    if handler.step = .awaitHello then handler.onHello protocol user nonce supplies
    else without (handler.malformed (.unexpected "hello" context))
  | .proof tag =>
    if handler.step = .awaitProof then without (handler.onProof tag)
    else without (handler.malformed (.unexpected "proof" context))
  | .verdict false reason =>
    if handler.step = .awaitHello ∨ handler.step = .awaitProof then
      without (handler.onRejection ("client aborted: " ++ reason))
    else without (handler.malformed (.unexpected "verdict" context))
  | message => without (handler.malformed (.unexpected message.name context))

end Parley.SharedKey
