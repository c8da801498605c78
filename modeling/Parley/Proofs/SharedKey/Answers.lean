import Parley.Proofs.Message.Length
import Parley.Proofs.Message.RoundTrip
import Parley.Proofs.SharedKey.Blobs

/-!
What the sides of an honest handshake answer. A side that hears what it has waited for says one
thing back, and what it says always fits in a message.
-/

namespace Parley

/-- What both sides of a handshake go by. -/
structure Terms where
  variant : Variant
  user : String
  clientNonce : Nonce
  serverNonce : Nonce

namespace Terms

def hello (terms : Terms) : Message :=
  .hello terms.variant.protocol terms.user terms.clientNonce.bytes

def serverProof (terms : Terms) (key : SecretKey) : Bytes :=
  Transcript.tag
    ⟨terms.variant, .server, terms.clientNonce.bytes, terms.serverNonce.bytes, terms.user⟩ key

def clientProof (terms : Terms) (key : SecretKey) : Bytes :=
  Transcript.tag
    ⟨terms.variant, .client, terms.serverNonce.bytes, terms.clientNonce.bytes, terms.user⟩ key

def sessionKey (terms : Terms) (key : SecretKey) : Bytes :=
  Transcript.tag
    ⟨terms.variant, .session, terms.clientNonce.bytes, terms.serverNonce.bytes, terms.user⟩ key

def challenge (terms : Terms) (server : String) (key : SecretKey) : Message :=
  .challenge server terms.serverNonce.bytes
    (if terms.variant.isMutual then some (terms.serverProof key) else none)

theorem fits_clientProof (terms : Terms) (key : SecretKey) :
    (Message.proof (terms.clientProof key)).body.length ≤ longestBody := by
  refine Message.fits_proof ?_
  rw [clientProof, Transcript.tag]
  exact Nat.le_of_eq (Hmac.length_tag _ _)

end Terms

namespace SharedKey

variable {κ : Type} [KeyStore κ] {role : Role} {handler client server : SharedKey}
  {supplies middle later : Supplies κ} {terms : Terms} {key other : SecretKey} {name : String}

structure Calm (role : Role) (handler : SharedKey) : Prop where
  engaged : Engaged handler
  role : handler.lifecycle.role = some role
  hidden : handler.lifecycle.face.credential = none
  quiet : handler.deferred = none
  inbox : handler.inbox = {}
  outbox : handler.outbox = {}

theorem Calm.sent (calm : Calm role handler) : Calm role (handler.sent .await) :=
  ⟨⟨calm.engaged.stage, calm.engaged.exchange⟩, calm.role, calm.hidden, calm.quiet, calm.inbox, rfl⟩

def Replies (handler : SharedKey) (supplies : Supplies κ) (heard : Message) (next : SharedKey)
    (said : Message) (settlement : Settlement) (later : Supplies κ) : Prop :=
  ∃ bytes, said.encode = .ok bytes ∧
    handler.onMessage heard supplies = (next.sending settlement bytes, later, .ok .pendingData)

theorem reply_eq (handler : SharedKey) (message : Message) (outbox : handler.outbox = {})
    (settlement : Settlement) :
    handler.reply message settlement =
      match message.encode with
      | .error fault => (handler, .error fault)
      | .ok bytes => (handler.sending settlement bytes, .ok .pendingData) := by
  rw [reply, Outbox.queue, outbox]
  cases message.encode <;> rfl

theorem reply_sending (handler : SharedKey) {message : Message} (outbox : handler.outbox = {})
    (fits : message.body.length ≤ longestBody) (settlement : Settlement) :
    ∃ bytes, message.encode = .ok bytes ∧
      handler.reply message settlement = (handler.sending settlement bytes, .ok .pendingData) := by
  have encoded := Message.encode_of_fits fits
  exact ⟨_, encoded, by rw [reply_eq handler message outbox, encoded]⟩

theorem reject_sending {refusal : Refusal} (outbox : handler.outbox = {})
    (fits : (Message.verdict false refusal.text).body.length ≤ longestBody) :
    ∃ bytes, (Message.verdict false refusal.text).encode = .ok bytes ∧
      handler.reject refusal =
        ({ handler with step := .done }.sending (.fail refusal.text) bytes, .ok .pendingData) := by
  obtain ⟨bytes, encoded, replied⟩ :=
    reply_sending { handler with step := .done } outbox fits (.fail refusal.text)
  exact ⟨bytes, encoded, by rw [reject, replied]⟩

/-! ## The server and the hello -/

structure AwaitsHello (variant : Variant) (server : SharedKey) : Prop
    extends Calm .server server where
  variant : server.variant = variant
  step : server.step = .awaitHello

structure AwaitsProof (terms : Terms) (key : SecretKey) (server : SharedKey) : Prop
    extends Calm .server server where
  variant : server.variant = terms.variant
  step : server.step = .awaitProof
  key : server.key = some key
  user : server.user = some terms.user
  clientNonce : server.clientNonce = terms.clientNonce.bytes
  serverNonce : server.serverNonce = terms.serverNonce.bytes

def challenging (server : SharedKey) (terms : Terms) (key : SecretKey) : SharedKey :=
  { server with
    key := some key
    user := some terms.user
    clientNonce := terms.clientNonce.bytes
    serverNonce := terms.serverNonce.bytes
    step := .awaitProof }

theorem AwaitsHello.challenging (awaits : AwaitsHello terms.variant server) (key : SecretKey) :
    AwaitsProof terms key ((server.challenging terms key).sent .await) :=
  ⟨Calm.sent ⟨⟨awaits.engaged.stage, awaits.engaged.exchange⟩, awaits.role, awaits.hidden,
    awaits.quiet, awaits.inbox, awaits.outbox⟩, awaits.variant, rfl, rfl, rfl, rfl, rfl⟩

theorem AwaitsHello.onMessage {variant : Variant} (awaits : AwaitsHello variant server)
    (protocol user : String) (nonce : Bytes) (supplies : Supplies κ) :
    server.onMessage (.hello protocol user nonce) supplies =
      server.onHello protocol user nonce supplies := by
  simp only [SharedKey.onMessage, awaits.role, onServerMessage, awaits.step, if_true]

theorem AwaitsHello.otherProtocol {variant : Variant} (awaits : AwaitsHello variant server)
    (differs : terms.variant ≠ variant) :
    Replies server supplies terms.hello { server with step := .done }
      (.verdict false (Refusal.otherProtocol terms.variant.protocol variant.protocol).text)
      (.fail (Refusal.otherProtocol terms.variant.protocol variant.protocol).text) supplies := by
  obtain ⟨bytes, encoded, rejected⟩ := reject_sending awaits.outbox
    (Message.fits_otherProtocol terms.variant variant)
  have other : terms.variant.protocol ≠ variant.protocol := by
    revert differs
    cases terms.variant <;> cases variant <;> decide
  refine ⟨bytes, encoded, ?_⟩
  rw [Terms.hello, awaits.onMessage]
  simp [onHello, terms.clientNonce.length_eq, protocol, awaits.variant, other, rejected]

theorem AwaitsHello.emptyUser (awaits : AwaitsHello terms.variant server) (empty : terms.user = "") :
    Replies server supplies terms.hello { server with step := .done }
      (.verdict false Refusal.emptyUser.text) (.fail Refusal.emptyUser.text) supplies := by
  obtain ⟨bytes, encoded, rejected⟩ := reject_sending awaits.outbox
    (Message.fits_fixed .emptyUser (by simp))
  refine ⟨bytes, encoded, ?_⟩
  rw [Terms.hello, awaits.onMessage]
  simp [onHello, terms.clientNonce.length_eq, protocol, awaits.variant, empty, rejected]

theorem AwaitsHello.missing (awaits : AwaitsHello terms.variant server) (named : terms.user ≠ "")
    (fits : terms.hello.body.length ≤ longestBody)
    (missing : server.lookup terms.user supplies = (.missing, later)) :
    Replies server supplies terms.hello { server with step := .done }
      (.verdict false (Refusal.noKey terms.user).text) (.fail (Refusal.noKey terms.user).text)
      later := by
  obtain ⟨bytes, encoded, rejected⟩ := reject_sending awaits.outbox
    (Message.fits_noKey fits terms.clientNonce.length_eq)
  refine ⟨bytes, encoded, ?_⟩
  rw [Terms.hello, awaits.onMessage]
  simp [onHello, terms.clientNonce.length_eq, protocol, awaits.variant, named, missing, rejected]

theorem AwaitsHello.locked (awaits : AwaitsHello terms.variant server) (named : terms.user ≠ "")
    {seconds : Nat} (locked : server.lookup terms.user supplies = (.locked seconds, later)) :
    server.onMessage terms.hello supplies =
      ({ server with deferred := some terms.hello }, later, .ok (.wait seconds)) := by
  rw [Terms.hello, awaits.onMessage]
  simp [onHello, terms.clientNonce.length_eq, protocol, awaits.variant, named, locked]

theorem AwaitsHello.knows (awaits : AwaitsHello terms.variant server) (named : terms.user ≠ "")
    (found : server.lookup terms.user supplies = (.found key, middle)) :
    server.onMessage terms.hello supplies =
      server.challenge terms.user terms.clientNonce.bytes key middle := by
  rw [Terms.hello, awaits.onMessage]
  simp [onHello, terms.clientNonce.length_eq, protocol, awaits.variant, named, found]

theorem AwaitsHello.found (awaits : AwaitsHello terms.variant server) (named : terms.user ≠ "")
    (found : server.lookup terms.user supplies = (.found key, middle))
    (drawn : middle.drawNonce = (some terms.serverNonce, later))
    (fits : (terms.challenge server.serverName key).body.length ≤ longestBody) :
    Replies server supplies terms.hello (server.challenging terms key)
      (terms.challenge server.serverName key) .await later := by
  obtain ⟨bytes, encoded, replied⟩ := reply_sending (server.challenging terms key)
    awaits.outbox fits .await
  refine ⟨bytes, encoded, ?_⟩
  have sameVariant : server.variant.isMutual = terms.variant.isMutual := by rw [awaits.variant]
  have tagged : (server.transcript .server terms.clientNonce.bytes terms.serverNonce.bytes
      terms.user).tag key = terms.serverProof key := by
    rw [transcript, awaits.variant, Terms.serverProof]
  rw [Terms.challenge, SharedKey.challenging] at replied
  rw [awaits.knows named found]
  simp [SharedKey.challenge, drawn, sameVariant, tagged, replied, SharedKey.challenging]

/-! ## The client and the challenge -/

structure AwaitsChallenge (terms : Terms) (key : SecretKey) (client : SharedKey) : Prop
    extends Calm .client client where
  variant : client.variant = terms.variant
  step : client.step = .awaitChallenge
  key : client.key = some key
  user : client.user = some terms.user
  clientNonce : client.clientNonce = terms.clientNonce.bytes

structure AwaitsVerdict (terms : Terms) (key : SecretKey) (name : String) (client : SharedKey) :
    Prop extends Calm .client client where
  variant : client.variant = terms.variant
  step : client.step = .awaitVerdict
  key : client.key = some key
  user : client.user = some terms.user
  clientNonce : client.clientNonce = terms.clientNonce.bytes
  serverNonce : client.serverNonce = terms.serverNonce.bytes
  peerName : client.peerName = some name

theorem AwaitsChallenge.sent (awaits : AwaitsChallenge terms key client) :
    AwaitsChallenge terms key (client.sent .await) :=
  ⟨awaits.toCalm.sent, awaits.variant, awaits.step, awaits.key, awaits.user, awaits.clientNonce⟩

/-- Nothing that the client goes by until then depends on the server's nonce. -/
theorem AwaitsChallenge.meets (awaits : AwaitsChallenge terms key client) (nonce : Nonce) :
    AwaitsChallenge { terms with serverNonce := nonce } key client :=
  ⟨awaits.toCalm, awaits.variant, awaits.step, awaits.key, awaits.user, awaits.clientNonce⟩

def proving (client : SharedKey) (terms : Terms) (name : String) : SharedKey :=
  { client with
    serverNonce := terms.serverNonce.bytes
    peerName := some name
    step := .awaitVerdict }

theorem AwaitsChallenge.proving (awaits : AwaitsChallenge terms key client) (name : String) :
    AwaitsVerdict terms key name ((client.proving terms name).sent .await) :=
  ⟨Calm.sent ⟨⟨awaits.engaged.stage, awaits.engaged.exchange⟩, awaits.role, awaits.hidden,
    awaits.quiet, awaits.inbox, awaits.outbox⟩, awaits.variant, rfl, awaits.key, awaits.user,
    awaits.clientNonce, rfl, rfl⟩

theorem AwaitsChallenge.onMessage (awaits : AwaitsChallenge terms key client)
    (supplies : Supplies κ) :
    client.onMessage (terms.challenge name other) supplies =
      ((client.onChallenge name terms.serverNonce.bytes
        (if terms.variant.isMutual then some (terms.serverProof other) else none)).1, supplies,
      (client.onChallenge name terms.serverNonce.bytes
        (if terms.variant.isMutual then some (terms.serverProof other) else none)).2) := by
  simp only [SharedKey.onMessage, awaits.role, Terms.challenge, onClientMessage, awaits.step,
    if_true]

theorem AwaitsChallenge.onChallenge (awaits : AwaitsChallenge terms key client)
    (tag : Option Bytes) :
    client.onChallenge name terms.serverNonce.bytes tag =
      match client.checkServerProof key terms.user terms.serverNonce.bytes tag with
      | .error problem => client.malformed problem
      | .ok (some refusal) => client.reject refusal
      | .ok none =>
        (client.proving terms name).reply (.proof ((client.transcript .client
          terms.serverNonce.bytes client.clientNonce terms.user).tag key)) .await := by
  rw [SharedKey.onChallenge, if_neg (by simp [terms.serverNonce.length_eq])]
  split
  · rename_i key' user' sameKey sameUser
    obtain rfl := Option.some.inj (sameKey.symm.trans awaits.key)
    obtain rfl := Option.some.inj (sameUser.symm.trans awaits.user)
    rfl
  · rename_i missing
    exact (missing key terms.user awaits.key awaits.user).elim

theorem AwaitsChallenge.checkServerProof (awaits : AwaitsChallenge terms key client) :
    client.checkServerProof key terms.user terms.serverNonce.bytes
      (if terms.variant.isMutual then some (terms.serverProof other) else none) =
      .ok (if terms.variant.isMutual = true ∧ terms.serverProof key ≠ terms.serverProof other then
        some .wrongServerProof else none) := by
  cases proves : terms.variant.isMutual with
  | true =>
      simp only [SharedKey.checkServerProof, awaits.variant, proves, if_true, transcript,
        awaits.clientNonce, Terms.serverProof]
      split <;> simp_all
  | false => simp [SharedKey.checkServerProof, awaits.variant, proves]

theorem AwaitsChallenge.content (awaits : AwaitsChallenge terms key client)
    (proved : terms.variant.isMutual = true → terms.serverProof key = terms.serverProof other) :
    Replies client supplies (terms.challenge name other) (client.proving terms name)
      (.proof (terms.clientProof key)) .await supplies := by
  obtain ⟨bytes, encoded, replied⟩ := reply_sending (client.proving terms name)
    awaits.outbox (terms.fits_clientProof key) .await
  have right : ¬ (terms.variant.isMutual = true ∧
      terms.serverProof key ≠ terms.serverProof other) := fun ⟨proves, differs⟩ =>
    differs (proved proves)
  have tagged : (client.transcript .client terms.serverNonce.bytes client.clientNonce
      terms.user).tag key = terms.clientProof key := by
    rw [transcript, awaits.variant, awaits.clientNonce, Terms.clientProof]
  refine ⟨bytes, encoded, ?_⟩
  rw [SharedKey.proving] at replied
  rw [awaits.onMessage, awaits.onChallenge, awaits.checkServerProof, if_neg right]
  simp only [tagged, replied, SharedKey.proving]

theorem AwaitsChallenge.wrong (awaits : AwaitsChallenge terms key client)
    (proves : terms.variant.isMutual = true)
    (differs : terms.serverProof key ≠ terms.serverProof other) :
    Replies client supplies (terms.challenge name other) { client with step := .done }
      (.verdict false Refusal.wrongServerProof.text) (.fail Refusal.wrongServerProof.text)
      supplies := by
  obtain ⟨bytes, encoded, rejected⟩ := reject_sending awaits.outbox
    (Message.fits_fixed .wrongServerProof (by simp))
  refine ⟨bytes, encoded, ?_⟩
  rw [awaits.onMessage, awaits.onChallenge, awaits.checkServerProof, if_pos ⟨proves, differs⟩]
  simp only [rejected]

/-! ## The server and the proof -/

theorem AwaitsProof.onMessage (awaits : AwaitsProof terms key server) (tag : Bytes)
    (supplies : Supplies κ) :
    server.onMessage (.proof tag) supplies =
      ((server.onProof tag).1, supplies, (server.onProof tag).2) := by
  simp only [SharedKey.onMessage, awaits.role, onServerMessage, awaits.step, if_true]

theorem AwaitsProof.onProof (awaits : AwaitsProof terms key server) (tag : Bytes) :
    server.onProof tag =
      if terms.clientProof key = tag then
        { server with step := .done, lifecycle := server.welcoming terms.user }.reply
          (.verdict true "")
          (.succeed ⟨terms.user, terms.variant.protocol, terms.sessionKey key⟩)
      else server.reject .wrongClientProof := by
  have expected : (server.transcript .client server.serverNonce server.clientNonce
      terms.user).tag key = terms.clientProof key := by
    rw [transcript, awaits.variant, awaits.clientNonce, awaits.serverNonce, Terms.clientProof]
  have shown : server.sessionKey key terms.user = terms.sessionKey key := by
    rw [SharedKey.sessionKey, transcript, awaits.variant, awaits.clientNonce, awaits.serverNonce,
      Terms.sessionKey]
  have spoken : server.protocol = terms.variant.protocol := by rw [protocol, awaits.variant]
  rw [SharedKey.onProof]
  split
  · rename_i key' user' sameKey sameUser
    obtain rfl := Option.some.inj (sameKey.symm.trans awaits.key)
    obtain rfl := Option.some.inj (sameUser.symm.trans awaits.user)
    rw [expected, shown, welcoming, spoken]
  · rename_i missing
    exact (missing key terms.user awaits.key awaits.user).elim

theorem AwaitsProof.right (awaits : AwaitsProof terms key server)
    (proved : terms.clientProof key = terms.clientProof other) :
    Replies server supplies (.proof (terms.clientProof other))
      { server with step := .done, lifecycle := server.welcoming terms.user }
      (.verdict true "") (.succeed ⟨terms.user, terms.variant.protocol, terms.sessionKey key⟩)
      supplies := by
  obtain ⟨bytes, encoded, replied⟩ := reply_sending
    { server with step := .done, lifecycle := server.welcoming terms.user }
    awaits.outbox Message.fits_acceptance
    (.succeed ⟨terms.user, terms.variant.protocol, terms.sessionKey key⟩)
  refine ⟨bytes, encoded, ?_⟩
  rw [awaits.onMessage, awaits.onProof, if_pos proved, replied]

theorem AwaitsProof.wrong (awaits : AwaitsProof terms key server)
    (differs : terms.clientProof key ≠ terms.clientProof other) :
    Replies server supplies (.proof (terms.clientProof other)) { server with step := .done }
      (.verdict false Refusal.wrongClientProof.text) (.fail Refusal.wrongClientProof.text)
      supplies := by
  obtain ⟨bytes, encoded, rejected⟩ := reject_sending awaits.outbox
    (Message.fits_fixed .wrongClientProof (by simp))
  refine ⟨bytes, encoded, ?_⟩
  rw [awaits.onMessage, awaits.onProof, if_neg differs, rejected]

/-! ## Verdicts -/

def Rejectable (handler : SharedKey) : Prop :=
  ∀ {κ : Type} [KeyStore κ] (reason : String) (supplies : Supplies κ), ∃ last,
    handler.onMessage (.verdict false reason) supplies = (last, supplies, .ok .failed) ∧
      last.lifecycle.face.credential = none

theorem AwaitsChallenge.rejected (awaits : AwaitsChallenge terms key client) (reason : String)
    (supplies : Supplies κ) :
    ∃ last, client.onMessage (.verdict false reason) supplies = (last, supplies, .ok .failed) ∧
      last.lifecycle = client.lifecycle.fail ("server rejected authentication: " ++ reason) := by
  simp [SharedKey.onMessage, awaits.role, onClientMessage, awaits.step, onRejection]

theorem AwaitsChallenge.rejectable (awaits : AwaitsChallenge terms key client) :
    Rejectable client := by
  intro κ _ reason supplies
  obtain ⟨last, rejected, lifecycle⟩ := awaits.rejected reason supplies
  exact ⟨last, rejected, by rw [lifecycle]; rfl⟩

theorem AwaitsVerdict.rejectable (awaits : AwaitsVerdict terms key name client) :
    Rejectable client := by
  intro κ _ reason supplies
  simp [SharedKey.onMessage, awaits.role, onClientMessage, awaits.step, onRejection,
    Lifecycle.fail, Lifecycle.finish]

theorem AwaitsProof.rejectable (awaits : AwaitsProof terms key server) : Rejectable server := by
  intro κ _ reason supplies
  simp [SharedKey.onMessage, awaits.role, onServerMessage, awaits.step, onRejection,
    Lifecycle.fail, Lifecycle.finish]

theorem AwaitsVerdict.accepted (awaits : AwaitsVerdict terms key name client)
    (supplies : Supplies κ) :
    ∃ last, client.onMessage (.verdict true "") supplies = (last, supplies, .ok .success) ∧
      last.lifecycle =
        client.lifecycle.succeed ⟨name, terms.variant.protocol, terms.sessionKey key⟩ := by
  simp [SharedKey.onMessage, awaits.role, onClientMessage, awaits.step, onAcceptance, awaits.key,
    awaits.user, awaits.peerName, SharedKey.sessionKey, transcript, awaits.variant,
    awaits.clientNonce, awaits.serverNonce, protocol, Terms.sessionKey]

end SharedKey

end Parley
