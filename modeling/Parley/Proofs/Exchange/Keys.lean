import Parley.Proofs.Exchange.Rekeyed

/-!
Exchanges do not tell keys apart. A client and a server that go by one key, and such that go by
another, make the same calls in the same order, and nothing but proofs differs in what they send.
-/

namespace Parley

namespace SharedKey

theorem Primed.of_unkeyed {variant : Variant} {role : Role} {handler other : SharedKey}
    (primed : Primed variant role handler) (same : other.unkeyed = handler.unkeyed) :
    Primed variant role other := by
  have lifecycle := lifecycle_of_unkeyed same
  exact ⟨lifecycle ▸ primed.stage, lifecycle ▸ primed.exchange, lifecycle ▸ primed.role,
    lifecycle ▸ primed.hidden, (congrArg SharedKey.variant same).trans primed.variant,
    (congrArg SharedKey.step same).trans primed.step,
    (congrArg SharedKey.deferred same).trans primed.quiet,
    (congrArg SharedKey.inbox same).trans primed.inbox,
    (congrArg SharedKey.outbox same).trans primed.outbox,
    (congrArg SharedKey.afterSend same).trans primed.afterSend⟩

end SharedKey

namespace Exchange

open SharedKey Party ExchangeEntry

variable {κ : Type} [KeyStore κ] {leg again : Leg κ} {terms : Terms} {key key' : SecretKey}

/-- The client stands as given, nothing is on its way, and the server may have yet to begin. -/
structure Still (capacity : Nat) (client : Party κ SharedKey) (nonces : NonceSupply)
    (server : SharedKey) (keys : κ) (late : Nat) (exchange : Exchange κ SharedKey) : Prop where
  client : exchange.client = client
  server : Receiver capacity server keys [] late exchange.server
  nonces : exchange.nonces = nonces
  toClient : exchange.toClient = []
  toServer : exchange.toServer = []

variable {capacity : Nat} {party party' : Party κ SharedKey} {nonces : NonceSupply}
  {client client' server server' : SharedKey} {clientKeys clientKeys' serverKeys serverKeys' : κ}
  {late : Nat} {exchange : Exchange κ SharedKey}

omit [KeyStore κ] in
theorem stands_opening (capacity : Nat) (nonces : NonceSupply) (client server : SharedKey)
    (clientKeys serverKeys : κ) :
    Stands capacity client clientKeys .produce none
      (opening capacity nonces client server clientKeys serverKeys).client :=
  ⟨rfl, rfl, rfl, rfl, List.length_replicate⟩

theorem still_opening {variant : Variant} (capacity : Nat) (nonces : NonceSupply)
    (client : SharedKey) (clientKeys serverKeys : κ) (primed : Primed variant .server server) :
    Still capacity (opening capacity nonces client server clientKeys serverKeys).client nonces
      server.listening serverKeys 1 (opening capacity nonces client server clientKeys serverKeys) :=
  ⟨rfl, .late (fun blob supplies => primed.produce_server blob.clear supplies)
    ⟨rfl, rfl, rfl, rfl, List.length_replicate⟩, rfl, rfl, rfl⟩

theorem Still.call_ready (still : Still capacity party nonces server serverKeys 0 exchange) :
    exchange.server.call exchange.nonces exchange.toServer = none := by
  cases still.server with
  | ready stands => rw [still.toServer, stands.call_waiting]

theorem Still.call_late (still : Still capacity party nonces server serverKeys 1 exchange) :
    ∃ turn, exchange.server.call exchange.nonces exchange.toServer = some turn ∧
      turn.answer = .ok .needData ∧ turn.sent = none ∧
      Still capacity party nonces server serverKeys 0 (exchange.place turn .server) := by
  cases still.server with
  | late opens stands =>
      obtain ⟨turn, called, kept, queue, answer, sent, receiver⟩ :=
        Receiver.call_of_late opens stands exchange.nonces exchange.toServer
      refine ⟨turn, called, answer, sent, still.client, receiver, kept.trans still.nonces, ?_,
        queue.trans still.toServer⟩
      rw [place, sent, still.toClient]
      rfl

theorem Still.call_failed {last : SharedKey} {blob : Blob} {later : Supplies κ} {fault : Fault}
    (still : Still capacity party nonces server serverKeys late exchange)
    (stands : Stands capacity client clientKeys .produce none party)
    (produced : Handler.produce client party.blob.clear ⟨nonces, clientKeys⟩ =
      ⟨.error fault, last, blob, later⟩) :
    ∃ turn, exchange.client.call exchange.nonces exchange.toClient = some turn ∧
      turn.answer = .error fault ∧ turn.sent = none ∧
      Stands blob.capacity last later.keys .produce (some (.error fault)) turn.party ∧
      Still capacity turn.party later.nonces server serverKeys late
        (exchange.place turn .client) := by
  have called := stands.call_produce nonces []
  have next := stands.next
  rw [produced] at called
  rw [still.client, still.nonces, still.toClient]
  refine ⟨_, called, rfl, rfl, ⟨rfl, rfl, ?_, rfl, rfl⟩, rfl, still.server, rfl, rfl, ?_⟩
  · simp only [Party.after, react, next]
  · rw [place, still.toServer]
    rfl

theorem Twofold.keeps_still {run : Twofold κ} (lifecycle : server'.lifecycle = server.lifecycle)
    (first : ∀ (count late : Nat) (run : Twofold κ),
      Still capacity party nonces server serverKeys late run.one →
      Still capacity party' nonces server' serverKeys' late run.other → run.Even →
      Calls (Keeps count) run .client)
    (one : Still capacity party nonces server serverKeys late run.one)
    (other : Still capacity party' nonces server' serverKeys' late run.other) (even : run.Even)
    (count : Nat) : run.Keeps count := by
  -- Whenever the server gets ready, the client still stands as given.
  induction count generalizing run late with
  | zero => exact even.alike
  | succ count ih =>
      refine ⟨even.alike, fun side => ?_⟩
      cases side with
      | client => exact first count late run one other even
      | server =>
          rcases one.server.punctual with rfl | rfl
          · exact .stuck one.call_ready other.call_ready
          · obtain ⟨turn, called, answer, silent, next⟩ := one.call_late
            obtain ⟨turn', called', answer', silent', next'⟩ := other.call_late
            have party : AlikeParties turn.party turn'.party :=
              alike_receivers next.server next'.server lifecycle
            exact .turn called called'
              (ih next next' (even.after (answer.trans answer'.symm) silent silent' party))

def Leg.hailing (terms : Terms) (capacity : Nat) (nonces : NonceSupply) (client : SharedKey)
    (clientKeys : κ) (server : SharedKey) (serverKeys : κ) : Leg κ where
  side := .client
  message := terms.hello
  capacity := capacity
  nonces := nonces
  sender := client.hailing terms.clientNonce.bytes
  settlement := .await
  senderKeys := clientKeys
  receiver := server.listening
  receiverKeys := serverKeys

theorem Still.hails {bytes : Bytes}
    (still : Still capacity party nonces server.listening serverKeys late exchange)
    (stands : Stands capacity client clientKeys .produce none party)
    (primed : Primed terms.variant .client client) (userEq : client.user = some terms.user)
    (drawn : nonces.draw (nonces.drawn + 1) = some terms.clientNonce)
    (encoded : terms.hello.encode = .ok bytes) :
    let leg := Leg.hailing terms capacity nonces.next.2 client clientKeys server serverKeys
    leg.Conveys bytes [] bytes late (exchange.hailed leg bytes) ∧
      (exchange.hailed leg bytes).frames .server = [] ∧
      exchange.client.call exchange.nonces exchange.toClient =
        (exchange.hailed leg bytes).client.call nonces.next.2 exchange.toClient := by
  intro leg
  have opens : Opens leg client nonces late exchange :=
    ⟨rfl, still.client ▸ stands, still.server, still.nonces, still.toClient, still.toServer⟩
  obtain ⟨conveys, frames⟩ := opens.conveys encoded
  exact ⟨conveys, frames,
    opens.call_client fun blob => primed.produce_client userEq drawn encoded blob⟩

omit [KeyStore κ] in
theorem Twofold.Even.hailed {run : Twofold κ} (even : run.Even) (legs : Legs leg again)
    (bytes : Bytes) :
    Even { run with one := run.one.hailed leg bytes, other := run.other.hailed again bytes } := by
  refine ⟨even.calls, even.streams, fun side => ?_⟩
  cases side with
  | client =>
      have clients := even.parties .client
      exact ⟨clients.next, clients.outcome, .of_eq (congrArg Lifecycle.face legs.sender.symm)⟩
  | server => exact even.parties .server

/-- A client and a server that are initialised, and such that are the same but for their keys. -/
structure Rekeyed (variant : Variant) (user : String) (key key' : SecretKey)
    (client client' server server' : SharedKey) (serverKeys serverKeys' : κ) : Prop where
  opens : Primed variant .client client
  listens : Primed variant .server server
  ownKey : client.key = some key
  ownKey' : client'.key = some key'
  ownUser : client.user = some user
  clients : client'.unkeyed = client.unkeyed
  servers : server'.unkeyed = server.unkeyed
  alike : LooksUpAlike key key' user server server' serverKeys serverKeys'

namespace Rekeyed

variable {variant : Variant} {user : String} {run : Twofold κ} {fault : Fault} {bytes : Bytes}

section

variable
  (rekeyed : Rekeyed variant user key key' client client' server server' serverKeys serverKeys')

include rekeyed

theorem opens' : Primed variant .client client' := rekeyed.opens.of_unkeyed rekeyed.clients

theorem listens' : Primed variant .server server' := rekeyed.listens.of_unkeyed rekeyed.servers

theorem ownUser' : client'.user = some user :=
  (congrArg SharedKey.user rekeyed.clients).trans rekeyed.ownUser

theorem same_client : client'.lifecycle = client.lifecycle :=
  lifecycle_of_unkeyed rekeyed.clients

theorem same_hailing (nonce : Bytes) :
    (client'.hailing nonce).lifecycle = (client.hailing nonce).lifecycle := by
  rw [SharedKey.hailing, SharedKey.hailing, rekeyed.same_client]

theorem same_name : server'.listening.serverName = server.listening.serverName := by
  have names := congrArg SharedKey.serverName rekeyed.servers
  exact names

theorem same_server : server'.listening.lifecycle = server.listening.lifecycle := by
  rw [SharedKey.listening, SharedKey.listening, lifecycle_of_unkeyed rekeyed.servers]

end

theorem calls_unsaid
    (rekeyed : Rekeyed variant user key key' client client' server server' serverKeys serverKeys')
    (stands : Stands capacity client clientKeys .produce none party)
    (stands' : Stands capacity client' clientKeys' .produce none party')
    (unsaid : Unsaid variant user nonces fault)
    (one : Still capacity party nonces server.listening serverKeys late run.one)
    (other : Still capacity party' nonces server'.listening serverKeys' late run.other)
    (even : run.Even) (count : Nat) : Twofold.Calls (Twofold.Keeps count) run .client := by
  obtain ⟨last, ended, produced⟩ :=
    rekeyed.opens.produce_unsaid rekeyed.ownUser unsaid clientKeys party.blob.clear
  obtain ⟨last', ended', produced'⟩ :=
    rekeyed.opens'.produce_unsaid rekeyed.ownUser' unsaid clientKeys' party'.blob.clear
  obtain ⟨turn, called, answer, silent, gone, still⟩ := one.call_failed stands produced
  obtain ⟨turn', called', answer', silent', gone', still'⟩ := other.call_failed stands' produced'
  have shown : (last.settle (.error fault)).lifecycle.face =
      (last'.settle (.error fault)).lifecycle.face := by
    rw [settle, settle, ended, ended', rekeyed.same_client]
  have nextEven : (run.after .client turn turn').Even := even.after (answer.trans answer'.symm)
    silent silent' (Twofold.alike_of_stands gone gone' (.of_eq shown))
  refine .turn called called' (Twofold.keeps_still rekeyed.same_server (fun _ _ run one other _ => ?_)
    still still' nextEven count)
  -- The client has ended, so that the server waits for ever once it is ready.
  refine .stuck ?_ ?_
  · have ended : run.one.client.call run.one.nonces run.one.toClient = none := by
      rw [one.client, gone.call_ended]
    exact ended
  · have ended : run.other.client.call run.other.nonces run.other.toClient = none := by
      rw [other.client, gone'.call_ended]
    exact ended

theorem legs (rekeyed : Rekeyed terms.variant terms.user key key' client client' server server'
      serverKeys serverKeys') :
    Twofold.Legs (.hailing terms capacity nonces client clientKeys server serverKeys)
      (.hailing terms capacity nonces client' clientKeys' server' serverKeys') where
  side := rfl
  capacity := rfl
  named := rfl
  body := .refl _
  steady := Leg.steady_of_calm _ (rekeyed.opens.hailing rekeyed.ownKey rekeyed.ownUser).engaged
    rekeyed.listens.listening.toCalm
  steadyAgain := Leg.steady_of_calm _
    (rekeyed.opens'.hailing rekeyed.ownKey' rekeyed.ownUser').engaged
    rekeyed.listens'.listening.toCalm
  sender := rekeyed.same_hailing terms.clientNonce.bytes
  settlement := .same _
  receiver := rekeyed.same_server

theorem calls_said
    (rekeyed : Rekeyed terms.variant terms.user key key' client client' server server' serverKeys
      serverKeys')
    (stands : Stands capacity client clientKeys .produce none party)
    (stands' : Stands capacity client' clientKeys' .produce none party')
    (drawn : nonces.draw (nonces.drawn + 1) = some terms.clientNonce)
    (encoded : terms.hello.encode = .ok bytes)
    (one : Still capacity party nonces server.listening serverKeys late run.one)
    (other : Still capacity party' nonces server'.listening serverKeys' late run.other)
    (even : run.Even) (count : Nat) : Twofold.Calls (Twofold.Keeps count) run .client := by
  obtain ⟨conveys, frames, called⟩ :=
    one.hails stands rekeyed.opens rekeyed.ownUser drawn encoded
  obtain ⟨conveys', frames', called'⟩ :=
    other.hails stands' rekeyed.opens' rekeyed.ownUser' drawn encoded
  have legs : Twofold.Legs
      (.hailing terms capacity nonces.next.2 client clientKeys server serverKeys)
      (.hailing terms capacity nonces.next.2 client' clientKeys' server' serverKeys') := rekeyed.legs
  have hailing := rekeyed.opens.hailing rekeyed.ownKey rekeyed.ownUser
  have hailing' := rekeyed.opens'.hailing rekeyed.ownKey' rekeyed.ownUser'
  -- The runs go on as those would in which both clients had the hello to send already.
  have underway := (even.hailed legs bytes).conveys legs conveys conveys' frames frames'
  cases underway.calls_sender legs with
  | stuck one other => exact .stuck (called.trans one) (called'.trans other)
  | turn one other next =>
      obtain ⟨left, left', conveys⟩ := next
      refine .turn (called.trans one) (called'.trans other) (conveys.greeted legs
        ⟨rfl, rfl, hailing.sent, rekeyed.listens.listening⟩
        ⟨rfl, rfl, hailing'.sent, rekeyed.listens'.listening⟩ rekeyed.same_name rfl rekeyed.alike count)

theorem keeps_opening
    (rekeyed : Rekeyed variant user key key' client client' server server' serverKeys serverKeys')
    (count : Nat) :
    Twofold.Keeps count ⟨opening capacity nonces client server clientKeys serverKeys,
      opening capacity nonces client' server' clientKeys' serverKeys', [], []⟩ := by
  have still := still_opening capacity nonces client clientKeys serverKeys rekeyed.listens
  have still' := still_opening capacity nonces client' clientKeys' serverKeys' rekeyed.listens'
  have stands := stands_opening capacity nonces client server clientKeys serverKeys
  have stands' := stands_opening capacity nonces client' server' clientKeys' serverKeys'
  have even : Twofold.Even ⟨opening capacity nonces client server clientKeys serverKeys,
      opening capacity nonces client' server' clientKeys' serverKeys', [], []⟩ := by
    refine ⟨.nil, fun _ => .nil, fun side => ?_⟩
    cases side with
    | client => exact ⟨rfl, rfl, .of_eq (congrArg Lifecycle.face rekeyed.same_client.symm)⟩
    | server =>
        exact ⟨rfl, rfl, .of_eq (congrArg Lifecycle.face (lifecycle_of_unkeyed rekeyed.servers).symm)⟩
  refine Twofold.keeps_still rekeyed.same_server (fun count late run one other even => ?_) still
    still' even count
  cases drawn : nonces.draw (nonces.drawn + 1) with
  | none =>
      exact rekeyed.calls_unsaid stands stands' (.undrawn drawn) one other even count
  | some own =>
      cases encoded : (Message.hello variant.protocol user own.bytes).encode with
      | error fault =>
          exact rekeyed.calls_unsaid stands stands' (.unwritten drawn encoded) one other even count
      | ok bytes =>
          -- The hello does not depend on the server's nonce, so the client's own stands in for it.
          have rekeyed : Rekeyed (Terms.mk variant user own own).variant
            (Terms.mk variant user own own).user key key' client client' server server' serverKeys
            serverKeys' := rekeyed
          exact rekeyed.calls_said stands stands' drawn encoded one other even count

end Rekeyed

/--
A client and a server of one protocol whose keys are replaced by another key, the same on both
sides, exchange the same calls in the same order, whatever the blobs hold and however the calls are
ordered. Each call gives the same answer and sends a frame of the same length or none; all bytes that
a side sends are the same but for the hexadecimal text of proofs; and at every time each side is
about to make the same call or has ended the same, and shows the same but for the session key of its
credential. So the report of the outcome and the text of a credential do not tell the keys apart.
-/
theorem keys_influence_only_tags {variant : Variant} {user : String}
    {clientBegan clientReady serverBegan serverReady : Supplies κ}
    (clientInitialised : Initialises (fresh variant) clientBegan client clientReady)
    (clientBound : client.lifecycle.stage = .bound)
    (clientRole : client.lifecycle.role = some .client) (clientUser : client.user = some user)
    (clientKey : client.key = some key) (clientKey' : client'.key = some key')
    (sameClient : client'.unkeyed = client.unkeyed)
    (serverInitialised : Initialises (fresh variant) serverBegan server serverReady)
    (serverBound : server.lifecycle.stage = .bound)
    (serverRole : server.lifecycle.role = some .server)
    (sameServer : server'.unkeyed = server.unkeyed)
    (alike : LooksUpAlike key key' user server server' serverKeys serverKeys')
    (clientKeys clientKeys' : κ) (capacity : Nat) (nonces : NonceSupply) (schedule : List Role) :
    let one := (opening capacity nonces client server clientKeys serverKeys).follow schedule
    let other := (opening capacity nonces client' server' clientKeys' serverKeys').follow schedule
    Twofold.Alike ⟨one.2, other.2, one.1, other.1⟩ ∧
      ∀ side, let shown := face (one.2.party side).handler
        let shown' := face (other.2.party side).handler
        (∀ mode, (Outcome.conclude shown mode).report = (Outcome.conclude shown' mode).report) ∧
          ∀ time, shown.credential.map (Credential.describe · time) =
            shown'.credential.map (Credential.describe · time) := by
  intro one other
  have rekeyed : Rekeyed variant user key key' client client' server server' serverKeys
      serverKeys' :=
    ⟨primed_initialises clientInitialised clientBound clientRole,
      primed_initialises serverInitialised serverBound serverRole, clientKey, clientKey',
      clientUser, sameClient, sameServer, alike⟩
  have keeps : Twofold.Keeps schedule.length
      ⟨opening capacity nonces client server clientKeys serverKeys,
        opening capacity nonces client' server' clientKeys' serverKeys', [], []⟩ :=
    rekeyed.keeps_opening schedule.length
  have runs := keeps.follow
  simp only [List.nil_append] at runs
  refine ⟨runs, fun side => ?_⟩
  have shown := (runs.parties side).face
  exact ⟨shown.report_conclude, shown.describe⟩

def keyring (key : SecretKey) : Supplies MemoryKeys :=
  ⟨.counting, MemoryKeys.insert {} "alice" key⟩

def keyedGuest (key : SecretKey) : Initialised (Supplies MemoryKeys) SharedKey :=
  Handler.init (fresh .p9sk1) (some ⟨"alice", "p9sk1"⟩) .client (keyring key)

def keyedHost (key : SecretKey) : Initialised (Supplies MemoryKeys) SharedKey :=
  Handler.init (fresh .p9sk1) none .server (keyring key)

theorem keys_influence_only_tags_alice :
    ((keyedGuest ⟨[1, 2, 3]⟩).handler.key = some ⟨[1, 2, 3]⟩ ∧
      (keyedGuest ⟨[4, 5]⟩).handler.key = some ⟨[4, 5]⟩) ∧
    let schedule := [.server, .client, .client, .server, .server, .client]
    let one := (opening 64 .counting (keyedGuest ⟨[1, 2, 3]⟩).handler
      (keyedHost ⟨[1, 2, 3]⟩).handler (keyring ⟨[1, 2, 3]⟩).keys
      (keyring ⟨[1, 2, 3]⟩).keys).follow schedule
    let other := (opening 64 .counting (keyedGuest ⟨[4, 5]⟩).handler (keyedHost ⟨[4, 5]⟩).handler
      (keyring ⟨[4, 5]⟩).keys (keyring ⟨[4, 5]⟩).keys).follow schedule
    Twofold.Alike ⟨one.2, other.2, one.1, other.1⟩ := by
  refine ⟨⟨rfl, rfl⟩, ?_⟩
  have clientInitialised : Initialises (fresh .p9sk1) (keyring ⟨[1, 2, 3]⟩)
      (keyedGuest ⟨[1, 2, 3]⟩).handler (keyedGuest ⟨[1, 2, 3]⟩).surroundings :=
    .live (some ⟨"alice", "p9sk1"⟩) .client
  have serverInitialised : Initialises (fresh .p9sk1) (keyring ⟨[1, 2, 3]⟩)
      (keyedHost ⟨[1, 2, 3]⟩).handler (keyedHost ⟨[1, 2, 3]⟩).surroundings := .live none .server
  have alike : LooksUpAlike ⟨[1, 2, 3]⟩ ⟨[4, 5]⟩ "alice" (keyedHost ⟨[1, 2, 3]⟩).handler
      (keyedHost ⟨[4, 5]⟩).handler (keyring ⟨[1, 2, 3]⟩).keys (keyring ⟨[4, 5]⟩).keys := by
    intro count
    rw [lookups_of_found rfl rfl, lookups_of_found rfl rfl]
    exact .found
  have sameClient : (keyedGuest ⟨[4, 5]⟩).handler.unkeyed =
      (keyedGuest ⟨[1, 2, 3]⟩).handler.unkeyed := rfl
  have sameServer : (keyedHost ⟨[4, 5]⟩).handler.unkeyed =
      (keyedHost ⟨[1, 2, 3]⟩).handler.unkeyed := rfl
  have runs := keys_influence_only_tags clientInitialised rfl rfl rfl rfl rfl sameClient
    serverInitialised rfl rfl sameServer alike (keyring ⟨[1, 2, 3]⟩).keys (keyring ⟨[4, 5]⟩).keys
    64 .counting [.server, .client, .client, .server, .server, .client]
  exact runs.1

end Exchange

end Parley
