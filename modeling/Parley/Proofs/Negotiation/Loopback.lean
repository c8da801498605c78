import Parley.Proofs.BuiltIn.Asking
import Parley.Proofs.Negotiation.Handshake
import Parley.Proofs.Negotiation.Offering
import Parley.Proofs.Negotiation.Starts

/-!
Loopbacks: a client and a server with each other over a pair of pipes, byte by byte. Whenever one
side has something to say the other one hears it, so they never block each other, however small the
pipes are; both end in success under the protocol that the client asked for or preferred.
-/

namespace Parley

open Conversation Negotiation

/-- What a client and a server go by who are to meet with the same key of a user. -/
structure Meets {κ : Type} [KeyStore κ] (terms : Terms) (key : SecretKey) (nonces : NonceSupply)
    (client server : Negotiation BuiltIn) (clientKeys serverKeys : κ) : Prop where
  clientRegistry : client.registry = Registry.standard
  serverRegistry : server.registry = Registry.standard
  clientOpening : client.phase = .opening
  serverOpening : server.phase = .opening
  clientTimeout : 0 < client.settings.timeout
  serverTimeout : 0 < server.settings.timeout
  clientLimit : 1 ≤ client.settings.maxDelegations
  serverLimit : 1 ≤ server.settings.maxDelegations
  room : 0 < client.settings.blobCapacity
  sameRoom : server.settings.blobCapacity = client.settings.blobCapacity
  sameRoute : server.route = client.route
  sameProtocol : server.protocol = client.protocol
  starts : client.start.AsClient client.protocol terms.user
  listens : server.start = .live none .server
  /-- The protocol is asked for, or it is the first preference that the server's envelope offers. -/
  agrees : client.protocol = terms.variant.protocol ∨ client.protocol = Envelope.protocol ∧
    client.start.preferences.find? Registry.offered.contains = some terms.variant.protocol
  named : terms.user ≠ ""
  clientKey : (KeyStore.lookup clientKeys terms.user).1 = .found key
  serverKey : (KeyStore.lookup serverKeys terms.user).1 = .found key
  clientDraws : nonces.draw (nonces.drawn + 1) = some terms.clientNonce
  serverDraws : nonces.draw (nonces.drawn + 2) = some terms.serverNonce
  helloFits : terms.hello.body.length ≤ longestBody
  challengeFits : (terms.challenge defaultServerName key).body.length ≤ longestBody

namespace Meets

variable {κ : Type} [KeyStore κ] {terms : Terms} {key : SecretKey} {nonces : NonceSupply}
  {client server : Negotiation BuiltIn} {clientKeys serverKeys : κ} {side : Side κ BuiltIn}
  {time : Nat}

def plainTurns (terms : Terms) (key : SecretKey) (nonces : NonceSupply) (capacity : Nat) :
    List (Bytes × NonceSupply) :=
  (terms.hello.wire capacity, nonces.next.2) ::
    terms.turns defaultServerName key capacity nonces.next.2.next.2

def envelopedTurns (terms : Terms) (key : SecretKey) (nonces : NonceSupply) (capacity : Nat) :
    List (Bytes × NonceSupply) :=
  ((Message.offer Registry.offered).wire capacity, nonces) ::
    ((Message.choice terms.variant.protocol).wire capacity ++ terms.hello.wire capacity,
      nonces.next.2) ::
    terms.turns defaultServerName key capacity nonces.next.2.next.2

def ClientEnds (terms : Terms) (key : SecretKey) (side : Side κ BuiltIn) : Prop :=
  side.result? = some (terms.success key defaultServerName)

def ServerEnds (terms : Terms) (key : SecretKey) (side : Side κ BuiltIn) : Prop :=
  side.result? = some (terms.success key terms.user)

theorem client_stocked (meets : Meets terms key nonces client server clientKeys serverKeys) :
    client.registry.Stocked := meets.clientRegistry ▸ Registry.stocked_standard

theorem server_stocked (meets : Meets terms key nonces client server clientKeys serverKeys) :
    server.registry.Stocked := meets.serverRegistry ▸ Registry.stocked_standard

theorem client_speaks (meets : Meets terms key nonces client server clientKeys serverKeys)
    {drive : Drive BuiltIn} (room : 0 < drive.capacity) {keys : κ}
    (calling : drive.Calling (.inl (.asClient terms.variant terms.user key)) keys side) :
    Speaks (Side.Acts time)
      (Follows (Side.Acts time) (ClientEnds terms key) false
        (terms.turns defaultServerName key drive.capacity nonces.next.2.next.2) nonces.next.2)
      nonces.next.2 (terms.hello.wire drive.capacity) nonces side :=
  Drive.speaks_client SharedKey.primed_asClient rfl rfl rfl room meets.clientDraws
    meets.helloFits meets.challengeFits calling

theorem server_hears (meets : Meets terms key nonces client server clientKeys serverKeys)
    {drive : Drive BuiltIn} (room : 0 < drive.capacity)
    (calling : drive.Calling (.inl (.asServer terms.variant)) serverKeys side) :
    Hears (Side.Acts time)
      (Follows (Side.Acts time) (ServerEnds terms key) true
        (terms.turns defaultServerName key drive.capacity nonces.next.2.next.2) nonces.next.2)
      (terms.hello.wire drive.capacity) side := by
  have found : ((SharedKey.asServer terms.variant).lookup terms.user
      (⟨nonces.next.2, serverKeys⟩ : Supplies κ)).1 = .found key := meets.serverKey
  have drawn : nonces.next.2.draw (nonces.next.2.drawn + 1) = some terms.serverNonce :=
    meets.serverDraws
  exact Drive.hears_server SharedKey.primed_asServer rfl rfl room meets.named found drawn
    meets.helloFits meets.challengeFits calling

/-! ## Sides that begin with a shared-key handler -/

theorem plain_client (meets : Meets terms key nonces client server clientKeys serverKeys)
    (asked : client.protocol = terms.variant.protocol)
    (stands : side.At client clientKeys false (.ready .opening)) :
    Follows (Side.Acts time) (ClientEnds terms key) true
      (plainTurns terms key nonces client.frameCapacity) nonces side := by
  have starts := meets.starts
  rw [asked] at starts
  have someHello := Message.wire_ne_nil_of_fits client.frameCapacity meets.helloFits
  refine Leads.speaks someHello (stands.leads_sharedKey meets.client_stocked asked
    (begin_sharedKey starts meets.named meets.clientKey) ⟨⟨rfl, rfl⟩, rfl⟩
    fun drive side same calling => .here ?_)
  have room := same ▸ frameCapacity_pos meets.room
  rw [← same]
  exact meets.client_speaks room calling

theorem plain_server (meets : Meets terms key nonces client server clientKeys serverKeys)
    (asked : client.protocol = terms.variant.protocol)
    (stands : side.At server serverKeys false (.ready .opening)) :
    Follows (Side.Acts time) (ServerEnds terms key) false
      (plainTurns terms key nonces client.frameCapacity) nonces side := by
  have sameFrames : client.frameCapacity = server.frameCapacity := by
    rw [frameCapacity, frameCapacity, meets.sameRoute, meets.sameRoom]
  have someHello := Message.wire_ne_nil_of_fits client.frameCapacity meets.helloFits
  have began (nonces : NonceSupply) :
      begin server.start (⟨nonces, serverKeys⟩ : Supplies κ) (SharedKey.fresh terms.variant) =
        ⟨true, .asServer terms.variant, ⟨nonces, serverKeys⟩⟩ := by
    rw [meets.listens]
    exact SharedKey.init_asServer _
  refine Leads.hears someHello (stands.leads_sharedKey meets.server_stocked
    (meets.sameProtocol.trans asked) began ⟨⟨rfl, rfl⟩, rfl⟩ fun drive side same calling =>
      .here ?_)
  rw [← sameFrames] at same
  have room := same ▸ frameCapacity_pos meets.room
  rw [← same]
  exact meets.server_hears room calling

/-! ## Sides that begin with an envelope -/

theorem fits_offer : (Message.offer Registry.offered).body.length ≤ longestBody := by
  decide +kernel

theorem enveloped_client (meets : Meets terms key nonces client server clientKeys serverKeys)
    (asked : client.protocol = Envelope.protocol)
    (chosen : Envelope.agreed client.start.preferences Registry.offered =
      some terms.variant.protocol)
    (stands : side.At client clientKeys false (.ready .opening)) :
    Follows (Side.Acts time) (ClientEnds terms key) false
      (envelopedTurns terms key nonces client.settings.blobCapacity) nonces side := by
  have starts := meets.starts
  rw [asked] at starts
  have someOffer := Message.wire_ne_nil_of_fits client.settings.blobCapacity fits_offer
  have someHello := Message.wire_ne_nil_of_fits client.settings.blobCapacity meets.helloFits
  have somePreferences : client.start.preferences ≠ [] :=
    List.ne_nil_of_mem (Envelope.agreed_mem chosen).1
  refine Leads.hears someOffer (stands.leads_envelope meets.client_stocked asked
    (fun _ => begin_envelope starts meets.named somePreferences _) ⟨rfl, rfl⟩ meets.clientLimit
    fun drive side enveloped same calling => .here ?_)
  have room := same ▸ meets.room
  rw [← same] at someHello ⊢
  refine Drive.Calling.hears_offer (Envelope.primed_asClient client.start) rfl rfl chosen
    fits_offer room enveloped someHello (SharedKey.init_asClient meets.clientKey) calling
    fun next side sameNext calling => ?_
  rw [← sameNext] at room ⊢
  exact meets.client_speaks room calling

theorem enveloped_server (meets : Meets terms key nonces client server clientKeys serverKeys)
    (asked : client.protocol = Envelope.protocol)
    (chosen : Envelope.agreed client.start.preferences Registry.offered =
      some terms.variant.protocol)
    (stands : side.At server serverKeys false (.ready .opening)) :
    Follows (Side.Acts time) (ServerEnds terms key) true
      (envelopedTurns terms key nonces client.settings.blobCapacity) nonces side := by
  have someOffer := Message.wire_ne_nil_of_fits client.settings.blobCapacity fits_offer
  have someHello := Message.wire_ne_nil_of_fits client.settings.blobCapacity meets.helloFits
  have began (nonces : NonceSupply) :
      begin server.start (⟨nonces, serverKeys⟩ : Supplies κ) (Envelope.fresh Registry.offered) =
        ⟨true, .asServer, ⟨nonces, serverKeys⟩⟩ := by
    rw [meets.listens]
    exact Envelope.init_asServer _
  have offers : Envelope.asServer.protocols = Registry.offered := Envelope.normalize_offered
  refine Leads.speaks someOffer (stands.leads_envelope meets.server_stocked
    (meets.sameProtocol.trans asked) began ⟨rfl, rfl⟩ meets.serverLimit
    fun drive side enveloped same calling => .here ?_)
  rw [meets.sameRoom] at same
  have room := same ▸ meets.room
  rw [← same] at someHello ⊢
  rw [← offers] at chosen ⊢
  refine Drive.Calling.speaks_offer Envelope.primed_asServer rfl rfl chosen (offers ▸ fits_offer)
    room enveloped someHello (fun nonces => SharedKey.init_asServer _) calling
    fun next side sameNext calling => ?_
  rw [← sameNext] at room ⊢
  exact meets.server_hears room calling

/-! ## Both sides -/

theorem said_proving (terms : Terms) (key : SecretKey) (nonces : NonceSupply) (capacity : Nat) :
    ∀ turn ∈ terms.proving key capacity nonces, turn.1 ≠ [] := by
  have someProof := Message.wire_ne_nil_of_fits capacity (terms.fits_clientProof key)
  have someVerdict := Message.wire_ne_nil_of_fits capacity Message.fits_acceptance
  simp [Terms.proving, someProof, someVerdict]

theorem said_plain (meets : Meets terms key nonces client server clientKeys serverKeys)
    (capacity : Nat) : ∀ turn ∈ plainTurns terms key nonces capacity, turn.1 ≠ [] := by
  have someHello := Message.wire_ne_nil_of_fits capacity meets.helloFits
  have someChallenge := Message.wire_ne_nil_of_fits capacity meets.challengeFits
  simpa [plainTurns, Terms.turns, someHello, someChallenge] using
    said_proving terms key nonces.next.2.next.2 capacity

theorem said_enveloped (meets : Meets terms key nonces client server clientKeys serverKeys)
    (capacity : Nat) : ∀ turn ∈ envelopedTurns terms key nonces capacity, turn.1 ≠ [] := by
  have someOffer := Message.wire_ne_nil_of_fits capacity fits_offer
  have plain := meets.said_plain capacity
  simp only [plainTurns, List.forall_mem_cons] at plain
  simp only [envelopedTurns, List.forall_mem_cons]
  exact ⟨someOffer, List.append_ne_nil_of_right_ne_nil _ plain.1, plain.2⟩

/-- Both sides come to their ends by taking turns, as the client begins or as the server does. -/
theorem settles_sides (meets : Meets terms key nonces client server clientKeys serverKeys)
    {fits : Bytes → Prop} (oneFits : ∀ byte, fits [byte]) {other : Side κ BuiltIn}
    (clientStands : side.At client clientKeys false (.ready .opening))
    (serverStands : other.At server serverKeys false (.ready .opening)) :
    Settles (Move (Side.Acts time) fits)
      (Conversation.Ended (ClientEnds terms key) (ServerEnds terms key))
      ⟨side, other, nonces, [], []⟩ := by
  rcases meets.agrees with asked | ⟨asked, chosen⟩
  · exact settles_follows oneFits (meets.said_plain _) (meets.plain_client asked clientStands)
      (meets.plain_server asked serverStands)
  · have settles : Settles (Move (Side.Acts time) fits) _ _ :=
      settles_follows oneFits (meets.said_enveloped _)
        (meets.enveloped_server asked chosen serverStands)
        (meets.enveloped_client asked chosen clientStands)
    refine settles.swap.imp fun last ended => ?_
    obtain ⟨one, other, toOne, toOther⟩ := ended
    exact ⟨other, one, toOther, toOne⟩

end Meets

/-! ## Loopbacks -/

namespace Pair

variable {κ σ : Type}

def side (pair : Pair κ σ) : End → Side κ σ
  | .left => pair.left
  | .right => pair.right

def loopback (place : End) (capacity : Nat) (nonces : NonceSupply) (client server : Negotiation σ)
    (clientKeys serverKeys : κ) : Pair κ σ :=
  let client := Side.starting client clientKeys { channel := place } none 0
  let server := Side.starting server serverKeys { channel := place.across } none 0
  let common : Common := { duplex := .ofCapacity (some capacity), nonces }
  match place with
  | .left => { left := client, right := server, common }
  | .right => { left := server, right := client, common }

end Pair

variable {κ : Type} [KeyStore κ] {terms : Terms} {key : SecretKey} {nonces : NonceSupply}
  {client server : Negotiation BuiltIn} {clientKeys serverKeys : κ}

/-- Both sides have ended in success with one session key, each under the name of its peer. -/
structure Pair.Succeeded (terms : Terms) (key : SecretKey) (place : End) (pair : Pair κ BuiltIn) :
    Prop where
  client : (pair.side place).result? = some (terms.success key defaultServerName)
  server : (pair.side place.across).result? = some (terms.success key terms.user)

omit [KeyStore κ] in
theorem Side.at_starting {negotiation : Negotiation BuiltIn} (phase : negotiation.phase = .opening)
    (timeout : 0 < negotiation.settings.timeout) (keys : κ) (place : End) :
    (Side.starting negotiation keys { channel := place } none 0).At negotiation keys false
        (.ready .opening) ∧
      (Side.starting negotiation keys { channel := place } none 0).shared.channel = place := by
  have silent : (Alarms.starting none negotiation.settings 0).rung 0 = none := by
    simp [Alarms.rung, Alarms.starting, Nat.ne_of_gt timeout]
  have started : Side.starting negotiation keys { channel := place } none 0 =
      { negotiation
        keys
        alarms := .starting none negotiation.settings 0
        shared := { channel := place }
        activity := .ready negotiation.phase } := by
    simp only [Side.starting, silent]
  rw [started]
  exact ⟨⟨rfl, rfl, rfl, rfl, congrArg _ phase⟩, rfl⟩

namespace Meets

variable (meets : Meets terms key nonces client server clientKeys serverKeys) (place : End)
  (capacity : Nat)

include meets

theorem joined_loopback : (Pair.loopback place capacity nonces client server clientKeys
    serverKeys).Joined capacity 0 := by
  obtain ⟨clientStands, clientPlace⟩ :=
    Side.at_starting meets.clientOpening meets.clientTimeout clientKeys place
  obtain ⟨serverStands, serverPlace⟩ :=
    Side.at_starting meets.serverOpening meets.serverTimeout serverKeys place.across
  have quiet {side : Side κ BuiltIn} {phase : Phase BuiltIn}
      (ready : side.activity = .ready phase) : side.Asks := by
    intro dialogue talking
    cases ready.symm.trans talking
  have clientAsks := quiet clientStands.activity
  have serverAsks := quiet serverStands.activity
  refine ⟨[], [], ?_⟩
  cases place with
  | left =>
      exact ⟨⟨clientPlace, clientAsks, rfl, rfl, Nat.zero_le _, Nat.zero_le _⟩,
        ⟨serverPlace, serverAsks, rfl, rfl, Nat.zero_le _, Nat.zero_le _⟩⟩
  | right =>
      exact ⟨⟨serverPlace, serverAsks, rfl, rfl, Nat.zero_le _, Nat.zero_le _⟩,
        ⟨clientPlace, clientAsks, rfl, rfl, Nat.zero_le _, Nat.zero_le _⟩⟩

theorem settles_loopback (room : 0 < capacity) :
    ∃ goal : Link (Side κ BuiltIn) NonceSupply UInt8 → Prop,
      (∀ last : Pair κ BuiltIn, goal last.link → last.Succeeded terms key place) ∧
      Settles (Move (Side.Acts 0) fun bytes => bytes.length ≤ capacity) goal
        (Pair.loopback place capacity nonces client server clientKeys serverKeys).link := by
  have settles : Settles (Move (Side.Acts 0) fun bytes => bytes.length ≤ capacity) _ _ :=
    meets.settles_sides (fun _ => room)
    (Side.at_starting meets.clientOpening meets.clientTimeout clientKeys place).1
    (Side.at_starting meets.serverOpening meets.serverTimeout serverKeys place.across).1
  cases place with
  | left => exact ⟨_, fun last ended => ⟨ended.one, ended.other⟩, settles⟩
  | right => exact ⟨_, fun last ended => ⟨ended.one, ended.other⟩, settles.swap⟩

end Meets

/--
However a client and a server go on byte by byte over pipes of any size, neither goes on for ever
and they never block each other: when neither can go on, both have ended in success. The turns that
last as long as they can are one way to come to it.
-/
theorem Pair.succeeded_loopback
    (meets : Meets terms key nonces client server clientKeys serverKeys) (place : End)
    {capacity : Nat} (room : 0 < capacity) :
    (¬ ∃ run : Nat → Pair κ BuiltIn,
      run 0 = loopback place capacity nonces client server clientKeys serverKeys ∧
        ∀ count, (run count).Goes (run (count + 1))) ∧
    (∀ last, Relation.ReflTransGen Pair.Goes
        (loopback place capacity nonces client server clientKeys serverKeys) last →
      (∀ next, ¬ last.Goes next) → last.Succeeded terms key place) ∧
    ∃ bound last,
      Pair.run bound (loopback place capacity nonces client server clientKeys serverKeys) =
        some last ∧ last.Succeeded terms key place := by
  obtain ⟨goal, reached, settles⟩ := meets.settles_loopback place capacity room
  have joined := meets.joined_loopback place capacity
  have settles := joined.settles BuiltIn.asking settles
  refine ⟨settles.no_infinite_run, fun last reaches stuck =>
    reached last (settles.of_stuck reaches stuck), ?_⟩
  have ended (last : Pair κ BuiltIn) (good : goal last.link) :
      last.left.result? ≠ none ∧ last.right.result? ≠ none := by
    have result {place : End} {result : Except Fault Outcome}
        (found : (last.side place).result? = some result) : (last.side place).result? ≠ none := by
      rw [found]
      exact Option.some_ne_none result
    obtain ⟨client, server⟩ := reached last good
    cases place with
    | left => exact ⟨result client, result server⟩
    | right => exact ⟨result server, result client⟩
  obtain ⟨bound, last, ran, good⟩ := joined.run BuiltIn.asking settles ended .left
  refine ⟨bound, last, ?_, reached last good⟩
  rw [← ran]
  cases place <;> rfl

def caller : Negotiation BuiltIn where
  protocol := "p9any"
  start := .declared (Dictionary.ofList [("proto", "p9any"), ("user", "alice"), ("role", "client"),
    ("protocols", "p9sk2 p9sk1")])
  route := .blobs
  settings := Settings.default
  registry := Registry.standard

def callee : Negotiation BuiltIn := { caller with start := .live none .server }

def calls : Terms := ⟨.p9sk2, "alice", Nonce.repeated 1, Nonce.repeated 2⟩

/-- Over pipes of one byte both sides succeed under the protocol that the client prefers. -/
theorem Pair.succeeded_loopback_p9sk2 :
    let keys := MemoryKeys.insert {} "alice" ⟨[1, 2, 3]⟩
    let pair := loopback .left 1 .counting caller callee keys keys
    (∀ last, Relation.ReflTransGen Pair.Goes pair last → (∀ next, ¬ last.Goes next) →
      last.Succeeded calls ⟨[1, 2, 3]⟩ .left) ∧
    ∃ bound last, Pair.run bound pair = some last ∧ last.Succeeded calls ⟨[1, 2, 3]⟩ .left := by
  intro keys pair
  have starts : caller.start.AsClient "p9any" "alice" :=
    .declared (by decide +kernel) (by decide +kernel) rfl (by decide +kernel)
  have agrees : caller.start.preferences.find? Registry.offered.contains = some "p9sk2" := by
    decide +kernel
  have meets : Meets calls ⟨[1, 2, 3]⟩ .counting caller callee keys keys :=
    { clientRegistry := rfl
      serverRegistry := rfl
      clientOpening := rfl
      serverOpening := rfl
      clientTimeout := by decide
      serverTimeout := by decide
      clientLimit := by decide
      serverLimit := by decide
      room := by decide
      sameRoom := rfl
      sameRoute := rfl
      sameProtocol := rfl
      starts
      listens := rfl
      agrees := Or.inr ⟨rfl, agrees⟩
      named := by decide
      clientKey := by decide +kernel
      serverKey := by decide +kernel
      clientDraws := rfl
      serverDraws := rfl
      helloFits := by decide +kernel
      challengeFits := by decide +kernel }
  exact (Pair.succeeded_loopback meets .left Nat.one_pos).2

end Parley
