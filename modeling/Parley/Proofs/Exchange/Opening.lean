import Parley.Proofs.Exchange.Legs
import Parley.Proofs.Handler.History

/-!
The first leg of a handshake. The client's first call draws its nonce and says hello; the server's
first call, which may come at any time, gets it ready to hear it.
-/

namespace Parley

namespace SharedKey

variable {κ : Type} [KeyStore κ] {variant : Variant} {role : Role} {handler client server : SharedKey}
  {began : Supplies κ} {terms : Terms} {key : SecretKey}

structure Primed (variant : Variant) (role : Role) (handler : SharedKey) : Prop where
  stage : handler.lifecycle.stage = .bound
  exchange : handler.lifecycle.exchange = none
  role : handler.lifecycle.role = some role
  hidden : handler.lifecycle.face.credential = none
  variant : handler.variant = variant
  step : handler.step = .start
  quiet : handler.deferred = none
  inbox : handler.inbox = {}
  outbox : handler.outbox = {}
  afterSend : handler.afterSend = none

theorem primed_init (ownKey : Option SecretKey) {identity : Option Identity} {asked : Role}
    {supplies : Supplies κ} {result : Initialised (Supplies κ) SharedKey}
    (initialised : { fresh variant with ownKey }.init identity asked supplies = result)
    (bound : result.handler.lifecycle.stage = .bound)
    (given : result.handler.lifecycle.role = some role) : Primed variant role result.handler := by
  subst initialised
  revert bound given
  simp only [init]
  split
  · intro bound
    cases bound
  · split
    · intro bound
      cases bound
    · rw [initClient]
      split
      · exact fun bound given => ⟨bound, rfl, given, rfl, rfl, rfl, rfl, rfl, rfl, rfl⟩
      · intro bound
        cases bound
      · intro bound
        cases bound
    · exact fun bound given => ⟨bound, rfl, given, rfl, rfl, rfl, rfl, rfl, rfl, rfl⟩

theorem primed_initialises {supplies : Supplies κ}
    (initialised : Initialises (fresh variant) supplies handler began)
    (bound : handler.lifecycle.stage = .bound) (given : handler.lifecycle.role = some role) :
    Primed variant role handler := by
  cases initialised with
  | live identity asked => exact primed_init none rfl bound given
  | declared attributes =>
      have unfolded : Handler.initFrom (fresh variant) attributes supplies =
          (fresh variant).initFrom attributes supplies := rfl
      revert bound given
      rw [unfolded, initFrom]
      split
      · intro bound
        cases bound
      · exact fun bound given => primed_init _ rfl bound given

def hailing (client : SharedKey) (nonce : Bytes) : SharedKey :=
  { client with
    lifecycle := { client.lifecycle with exchange := some .blob, stage := .exchanging }
    clientNonce := nonce
    step := .awaitChallenge }

def listening (server : SharedKey) : SharedKey :=
  { server with
    lifecycle := { server.lifecycle with exchange := some .blob, stage := .exchanging }
    step := .awaitHello }

theorem Primed.enter (primed : Primed variant role handler) :
    handler.lifecycle.enter .blob =
      ({ handler.lifecycle with exchange := some .blob, stage := .exchanging }, none) := by
  rw [Lifecycle.enter, primed.stage, primed.exchange]
  rfl

theorem Primed.hailing (primed : Primed terms.variant .client client)
    (keyEq : client.key = some key) (userEq : client.user = some terms.user) :
    AwaitsChallenge terms key (client.hailing terms.clientNonce.bytes) :=
  ⟨⟨⟨rfl, rfl⟩, primed.role, primed.hidden, primed.quiet, primed.inbox, primed.outbox⟩,
    primed.variant, rfl, keyEq, userEq, rfl⟩

theorem Primed.listening (primed : Primed variant .server server) :
    AwaitsHello variant server.listening :=
  ⟨⟨⟨rfl, rfl⟩, primed.role, primed.hidden, primed.quiet, primed.inbox, primed.outbox⟩,
    primed.variant, rfl⟩

theorem Primed.produce_server (primed : Primed variant .server server) (blob : Blob)
    (supplies : Supplies κ) :
    Handler.produce server blob supplies = ⟨.ok .needData, server.listening, blob, supplies⟩ := by
  have called : Handler.produce server blob supplies = call write server blob supplies := rfl
  have role := primed.role
  rw [Lifecycle.role] at role
  rw [called, call, primed.enter]
  simp [write, prepare, primed.outbox, primed.afterSend, Outbox.isEmpty, Lifecycle.role, role,
    primed.step, settle, Lifecycle.settle, SharedKey.listening]

theorem Primed.produce_client (primed : Primed terms.variant .client client)
    (userEq : client.user = some terms.user) {nonces : NonceSupply} {keys : κ} {bytes : Bytes}
    (drawn : nonces.draw (nonces.drawn + 1) = some terms.clientNonce)
    (encoded : terms.hello.encode = .ok bytes) (blob : Blob) :
    Handler.produce client blob (⟨nonces, keys⟩ : Supplies κ) =
      Handler.produce ((client.hailing terms.clientNonce.bytes).sending .await bytes) blob
        (⟨nonces.next.2, keys⟩ : Supplies κ) := by
  have called : Handler.produce client blob (⟨nonces, keys⟩ : Supplies κ) =
      call write client blob ⟨nonces, keys⟩ := rfl
  have role := primed.role
  rw [Lifecycle.role] at role
  rw [Terms.hello] at encoded
  have spoken : client.protocol = terms.variant.protocol := by rw [protocol, primed.variant]
  have prepared : prepare { client with
        lifecycle := { client.lifecycle with exchange := some .blob, stage := .exchanging } }
        (⟨nonces, keys⟩ : Supplies κ) =
      ((client.hailing terms.clientNonce.bytes).sending .await bytes, ⟨nonces.next.2, keys⟩,
        .ok .pendingData) := by
    rw [protocol] at spoken
    simp [prepare, primed.outbox, primed.afterSend, Outbox.isEmpty, Lifecycle.role, role,
      primed.step, userEq, sayHello, Supplies.drawNonce, NonceSupply.next, drawn, reply,
      Outbox.queue, protocol, spoken, encoded, SharedKey.hailing, sending]
  rw [called, call, primed.enter]
  simp only [write, prepared]
  rw [produce_engaged ⟨rfl, rfl⟩, write_queued rfl]

/-- Why a client cannot say hello: it gets no nonce, or its user's name is too long. -/
inductive Unsaid (variant : Variant) (user : String) (nonces : NonceSupply) : Fault → Prop
  | undrawn (drawn : nonces.draw (nonces.drawn + 1) = none) :
      Unsaid variant user nonces (.transport ⟨.other, some "system randomness unavailable"⟩)
  | unwritten {own : Nonce} {fault : Fault} (drawn : nonces.draw (nonces.drawn + 1) = some own)
      (failed : (Message.hello variant.protocol user own.bytes).encode = .error fault) :
      Unsaid variant user nonces fault

theorem Primed.produce_unsaid (primed : Primed variant .client client) {user : String}
    (userEq : client.user = some user) {nonces : NonceSupply} {fault : Fault}
    (unsaid : Unsaid variant user nonces fault) (keys : κ) (blob : Blob) :
    ∃ last : SharedKey,
      last.lifecycle = { client.lifecycle with exchange := some .blob, stage := .exchanging } ∧
      Handler.produce client blob (⟨nonces, keys⟩ : Supplies κ) =
        ⟨.error fault, last.settle (.error fault), blob, ⟨nonces.next.2, keys⟩⟩ := by
  have called : Handler.produce client blob (⟨nonces, keys⟩ : Supplies κ) =
      call write client blob ⟨nonces, keys⟩ := rfl
  have role := primed.role
  rw [Lifecycle.role] at role
  have spoken : client.protocol = variant.protocol := by rw [protocol, primed.variant]
  rw [protocol] at spoken
  rw [called, call, primed.enter]
  cases unsaid with
  | undrawn drawn =>
      refine ⟨{ client with
        lifecycle := { client.lifecycle with exchange := some .blob, stage := .exchanging } }, rfl, ?_⟩
      simp [write, prepare, primed.outbox, primed.afterSend, Outbox.isEmpty, Lifecycle.role, role,
        primed.step, userEq, sayHello, Supplies.drawNonce, NonceSupply.next, drawn]
  | @unwritten own _ drawn failed =>
      refine ⟨client.hailing own.bytes, rfl, ?_⟩
      simp [write, prepare, primed.outbox, primed.afterSend, Outbox.isEmpty, Lifecycle.role, role,
        primed.step, userEq, sayHello, Supplies.drawNonce, NonceSupply.next, drawn, reply,
        Outbox.queue, protocol, spoken, failed, SharedKey.hailing]

end SharedKey

namespace Exchange

open SharedKey Party

variable {κ : Type} [KeyStore κ] {kind : Exchange κ SharedKey → Prop}
  {exchange : Exchange κ SharedKey} {leg : Leg κ} {bytes : Bytes} {start : SharedKey}
  {nonces : NonceSupply} {late : Nat}

structure Opens (leg : Leg κ) (start : SharedKey) (nonces : NonceSupply) (late : Nat)
    (exchange : Exchange κ SharedKey) : Prop where
  side : leg.side = .client
  client : Stands leg.capacity start leg.senderKeys .produce none exchange.client
  server : Receiver leg.capacity leg.receiver leg.receiverKeys [] late exchange.server
  nonces : exchange.nonces = nonces
  toClient : exchange.toClient = []
  toServer : exchange.toServer = []

/-- The exchange as it would be if the client had its message to send already. -/
def hailed (exchange : Exchange κ SharedKey) (leg : Leg κ) (bytes : Bytes) : Exchange κ SharedKey :=
  { exchange with
    client := { exchange.client with handler := leg.sender.sending leg.settlement bytes }
    nonces := leg.nonces }

theorem Opens.conveys (opens : Opens leg start nonces late exchange)
    (encoded : leg.message.encode = .ok bytes) :
    leg.Conveys bytes [] bytes late (exchange.hailed leg bytes) ∧
      (exchange.hailed leg bytes).frames leg.side.peer = [] := by
  obtain ⟨side, client, server, sameNonces, toClient, toServer⟩ := opens
  have someBytes := Inbox.ne_nil_of_encode encoded
  have stands : Stands leg.capacity (leg.sender.sending leg.settlement bytes) leg.senderKeys
      .produce none (exchange.hailed leg bytes).client :=
    ⟨rfl, client.keys, client.next, client.outcome, client.capacity⟩
  refine ⟨⟨?_, ?_, rfl, ?_, encoded, ?_, ?_, ?_⟩, ?_⟩
  all_goals rw [side]
  · exact .sending someBytes stands
  · exact server
  · exact toClient
  · simp [Role.peer, frames, hailed, toServer]
  · simp [Role.peer, frames, hailed, toServer, someBytes]
  · simp [Role.peer, frames, hailed, toServer]
  · exact toServer

theorem Opens.call_client (opens : Opens leg start nonces late exchange)
    (same : ∀ blob : Blob,
      Handler.produce start blob (⟨nonces, leg.senderKeys⟩ : Supplies κ) =
        Handler.produce (leg.sender.sending leg.settlement bytes) blob
          (⟨leg.nonces, leg.senderKeys⟩ : Supplies κ)) :
    exchange.client.call exchange.nonces exchange.toClient =
      (exchange.hailed leg bytes).client.call leg.nonces exchange.toClient := by
  obtain ⟨_, client, _, sameNonces, _, _⟩ := opens
  have stands : Stands leg.capacity (leg.sender.sending leg.settlement bytes) leg.senderKeys
      .produce none (exchange.hailed leg bytes).client :=
    ⟨rfl, client.keys, client.next, client.outcome, client.capacity⟩
  rw [stands.call_produce, ← same, sameNonces, client.call_produce]
  rfl

theorem Opens.begins (opens : Opens leg start nonces late exchange) (sound : leg.Sound)
    (encoded : leg.message.encode = .ok bytes)
    (same : ∀ blob : Blob,
      Handler.produce start blob (⟨nonces, leg.senderKeys⟩ : Supplies κ) =
        Handler.produce (leg.sender.sending leg.settlement bytes) blob
          (⟨leg.nonces, leg.senderKeys⟩ : Supplies κ))
    {turn : PartyTurn κ SharedKey}
    (called : exchange.client.call exchange.nonces exchange.toClient = some turn) :
    ∃ size, leg.Underway bytes size (exchange.place turn .client) := by
  have underway : leg.Underway bytes _ (exchange.hailed leg bytes) :=
    ⟨[], bytes, late, (opens.conveys encoded).1, rfl⟩
  rw [opens.call_client same] at called
  have side := opens.side
  have also : ((exchange.hailed leg bytes).party leg.side).call (exchange.hailed leg bytes).nonces
      ((exchange.hailed leg bytes).frames leg.side) = some turn := by
    rw [side]
    exact called
  obtain ⟨smaller, _, underway⟩ := underway.sends sound also
  rw [side] at underway
  exact ⟨smaller, underway⟩

theorem Opens.settles (opens : Opens leg start nonces late exchange) (sound : leg.Sound)
    (encoded : leg.message.encode = .ok bytes)
    (same : ∀ blob : Blob,
      Handler.produce start blob (⟨nonces, leg.senderKeys⟩ : Supplies κ) =
        Handler.produce (leg.sender.sending leg.settlement bytes) blob
          (⟨leg.nonces, leg.senderKeys⟩ : Supplies κ))
    (goesOn : ∀ size exchange, leg.Underway bytes size exchange → Settles kind exchange) :
    Settles kind exchange := by
  have own (late : Nat) (exchange : Exchange κ SharedKey)
      (opens : Opens leg start nonces late exchange) (turn : PartyTurn κ SharedKey)
      (called : exchange.client.call exchange.nonces exchange.toClient = some turn) :
      Settles kind (exchange.place turn .client) := by
    obtain ⟨size, underway⟩ := opens.begins sound encoded same called
    exact goesOn size _ underway
  have not_stuck (late : Nat) (exchange : Exchange κ SharedKey)
      (opens : Opens leg start nonces late exchange)
      (stuck : exchange.client.call exchange.nonces exchange.toClient = none) :
      kind exchange := by
    rw [opens.client.call_produce] at stuck
    cases stuck
  have punctual (exchange : Exchange κ SharedKey) (opens : Opens leg start nonces 0 exchange) :
      Settles kind exchange := by
    refine settles_of_parties .client (own 0 exchange opens) (fun turn called => ?_)
      fun stuck _ => not_stuck 0 exchange opens stuck
    have waits : exchange.server.call exchange.nonces exchange.toServer = some turn := called
    cases opens.server with
    | ready stands =>
        rw [opens.toServer, stands.call_waiting] at waits
        cases waits
  refine settles_of_parties .client (own late exchange opens) (fun turn called => ?_)
    fun stuck _ => not_stuck late exchange opens stuck
  have called' : exchange.server.call exchange.nonces exchange.toServer = some turn := called
  obtain ⟨side, client, server, sameNonces, toClient, toServer⟩ := opens
  cases server with
  | ready stands =>
      rw [toServer, stands.call_waiting] at called'
      cases called'
  | late first stands =>
      obtain ⟨turn', found, nonces', queue', _, sent', receiver⟩ :=
        Receiver.call_of_late first stands exchange.nonces exchange.toServer
      obtain rfl := Option.some.inj (found.symm.trans called')
      refine punctual _ ⟨side, client, receiver, nonces'.trans sameNonces, ?_,
        queue'.trans toServer⟩
      change exchange.toClient ++ turn'.sent.toList = []
      rw [toClient, sent']
      rfl

end Exchange

end Parley
