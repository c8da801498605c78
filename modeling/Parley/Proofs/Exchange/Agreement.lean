import Parley.Proofs.Exchange.Opening

/-!
Agreement of honest sides. Whatever the sizes of the blobs and however the calls are ordered, a
client and a server come to an end, both with the same verdict.
-/

namespace Parley

def Terms.credentials (terms : Terms) (name : String) (clientKey serverKey : SecretKey) :
    Role → Option Credential
  | .client => some ⟨name, terms.variant.protocol, terms.sessionKey clientKey⟩
  | .server => some ⟨terms.user, terms.variant.protocol, terms.sessionKey serverKey⟩

namespace SharedKey

variable {κ : Type} [KeyStore κ] {server : SharedKey} {terms : Terms} {user : String}
  {supplies : Supplies κ} {key : SecretKey} {answer : KeyLookup}

/-- A server's lookups of a user find a key or none, after finitely many that find it locked. -/
inductive Resolves (server : SharedKey) (user : String) : Supplies κ → KeyLookup → Prop
  | found {supplies later : Supplies κ} {key : SecretKey}
      (found : server.lookup user supplies = (.found key, later)) :
      Resolves server user supplies (.found key)
  | missing {supplies later : Supplies κ}
      (missing : server.lookup user supplies = (.missing, later)) :
      Resolves server user supplies .missing
  | locked {supplies later : Supplies κ} {seconds : Nat} {answer : KeyLookup}
      (locked : server.lookup user supplies = (.locked seconds, later))
      (resolves : Resolves server user later answer) : Resolves server user supplies answer

theorem Resolves.listening (resolves : Resolves server user supplies answer) :
    Resolves server.listening user supplies answer := by
  induction resolves with
  | found found => exact .found found
  | missing missing => exact .missing missing
  | locked locked _ ih => exact .locked locked ih

theorem Resolves.found_or_missing (resolves : Resolves server user supplies answer) :
    (∃ key, answer = .found key) ∨ answer = .missing := by
  induction resolves with
  | @found _ _ key _ => exact Or.inl ⟨key, rfl⟩
  | missing _ => exact Or.inr rfl
  | locked _ _ ih => exact ih

theorem lookup_of_keys (server : SharedKey) (user : String) {other : Supplies κ}
    (same : other.keys = supplies.keys) :
    server.lookup user other =
      ((server.lookup user supplies).1, ⟨other.nonces, (server.lookup user supplies).2.keys⟩) := by
  rcases supplies with ⟨nonces, keys⟩
  rcases other with ⟨nonces', keys'⟩
  obtain rfl : keys' = keys := same
  rw [lookup, lookup]
  split <;> rfl

theorem Resolves.of_keys {other : Supplies κ} (resolves : Resolves server user supplies answer)
    (same : other.keys = supplies.keys) : Resolves server user other answer := by
  induction resolves generalizing other with
  | found found =>
      have looked := lookup_of_keys server user same
      rw [found] at looked
      exact .found looked
  | missing missing =>
      have looked := lookup_of_keys server user same
      rw [missing] at looked
      exact .missing looked
  | locked locked _ ih =>
      have looked := lookup_of_keys server user same
      rw [locked] at looked
      exact .locked looked (ih rfl)

open Exchange

theorem AwaitsHello.comes_found (awaits : AwaitsHello terms.variant server)
    (named : terms.user ≠ "") (resolves : Resolves server terms.user supplies (.found key))
    (drawn : supplies.nonces.draw (supplies.nonces.drawn + 1) = some terms.serverNonce)
    (fits : (terms.challenge server.serverName key).body.length ≤ longestBody) :
    Comes server terms.hello (server.challenging terms key)
      (terms.challenge server.serverName key) .await supplies.nonces.next.2 supplies := by
  generalize same : KeyLookup.found key = answer at resolves
  induction resolves with
  | @found supplies later other found =>
      obtain rfl := KeyLookup.found.inj same
      have kept := nonces_lookup found
      have drawn : later.drawNonce =
          (some terms.serverNonce, ⟨supplies.nonces.next.2, later.keys⟩) := by
        simp [Supplies.drawNonce, NonceSupply.next, kept, drawn]
      exact .replies (awaits.found named found drawn fits) rfl
  | missing _ => cases same
  | locked locked _ ih =>
      have kept := nonces_lookup locked
      refine .waits (awaits.locked named locked) ?_
      rw [← kept]
      exact ih (by rw [kept]; exact drawn) same

theorem AwaitsHello.comes_missing (awaits : AwaitsHello terms.variant server)
    (named : terms.user ≠ "") (fits : terms.hello.body.length ≤ longestBody)
    (resolves : Resolves server terms.user supplies .missing) :
    Comes server terms.hello { server with step := .done }
      (.verdict false (Refusal.noKey terms.user).text) (.fail (Refusal.noKey terms.user).text)
      supplies.nonces supplies := by
  generalize same : KeyLookup.missing = answer at resolves
  induction resolves with
  | found _ => cases same
  | missing missing =>
      exact .replies (awaits.missing named fits missing) (nonces_lookup missing)
  | locked locked _ ih =>
      refine .waits (awaits.locked named locked) ?_
      rw [← nonces_lookup locked]
      exact ih same

theorem engaged_welcoming (engaged : Engaged server) (user : String) (step : Step) :
    Engaged { server with step, lifecycle := server.welcoming user } := by
  constructor
  · simp only [welcoming]
    split <;> exact engaged.stage
  · simp only [welcoming]
    split <;> exact engaged.exchange

end SharedKey

namespace Exchange

open SharedKey Party

variable {κ : Type} [KeyStore κ] {exchange : Exchange κ SharedKey} {capacity : Nat}
  {nonces : NonceSupply} {sender client server : SharedKey} {clientKeys serverKeys : κ}
  {terms : Terms} {key serverKey : SecretKey} {name : String}

structure Trusts (terms : Terms) (key serverKey : SecretKey) : Prop where
  server : terms.variant.isMutual = true → terms.serverProof key = terms.serverProof serverKey
  client : terms.clientProof serverKey = terms.clientProof key

theorem settles_acceptance (room : 0 < capacity) (sends : Engaged sender)
    (awaits : AwaitsVerdict terms key name client)
    (begins : Leg.Begins ⟨.server, .verdict true "", capacity, nonces, sender,
      .succeed ⟨terms.user, terms.variant.protocol, terms.sessionKey serverKey⟩, serverKeys,
      client, clientKeys⟩ exchange) :
    Settles (Ended .success (terms.credentials name key serverKey)) exchange := by
  obtain ⟨bytes, size, underway⟩ := begins.underway
  obtain ⟨last, accepted, ended⟩ := awaits.accepted (⟨nonces, clientKeys⟩ : Supplies κ)
  have shown := congrArg (fun lifecycle : Lifecycle => lifecycle.face.credential) ended
  exact underway.ended (Leg.sound_of_calm _ room sends awaits.toCalm) accepted (Or.inl rfl) rfl rfl
    shown

theorem settles_proof (room : 0 < capacity)
    (awaitsVerdict : AwaitsVerdict terms key name (sender.sent .await))
    (awaitsProof : AwaitsProof terms serverKey server)
    (begins : Leg.Begins ⟨.client, .proof (terms.clientProof key), capacity, nonces, sender,
      .await, clientKeys, server, serverKeys⟩ exchange) :
    (terms.clientProof serverKey = terms.clientProof key →
      Settles (Ended .success (terms.credentials name key serverKey)) exchange) ∧
    (terms.clientProof serverKey ≠ terms.clientProof key →
      Settles (Ended .failed fun _ => none) exchange) := by
  obtain ⟨bytes, size, underway⟩ := begins.underway
  have sound := Leg.sound_of_calm ⟨.client, .proof (terms.clientProof key), capacity, nonces, sender,
    .await, clientKeys, server, serverKeys⟩ room
    ⟨awaitsVerdict.engaged.stage, awaitsVerdict.engaged.exchange⟩ awaitsProof.toCalm
  constructor
  · intro proved
    refine underway.answered sound awaitsProof.toCalm rfl
      (.replies (awaitsProof.right proved) rfl) fun keys exchange next => ?_
    exact settles_acceptance room (engaged_welcoming awaitsProof.engaged _ _) awaitsVerdict next
  · intro differs
    refine underway.answered sound awaitsProof.toCalm rfl
      (.replies (awaitsProof.wrong differs) rfl) fun keys exchange next => ?_
    have refuses : Engaged { server with step := .done } :=
      ⟨awaitsProof.engaged.stage, awaitsProof.engaged.exchange⟩
    exact next.refused (Leg.sound_of_calm _ room refuses awaitsVerdict.toCalm) rfl rfl
      awaitsVerdict.rejectable

theorem settles_challenge (room : 0 < capacity)
    (awaitsProof : AwaitsProof terms serverKey (sender.sent .await))
    (awaitsChallenge : AwaitsChallenge terms key client)
    (begins : Leg.Begins ⟨.server, terms.challenge name serverKey, capacity, nonces, sender,
      .await, serverKeys, client, clientKeys⟩ exchange) :
    (Trusts terms key serverKey →
      Settles (Ended .success (terms.credentials name key serverKey)) exchange) ∧
    (¬ Trusts terms key serverKey → Settles (Ended .failed fun _ => none) exchange) := by
  obtain ⟨bytes, size, underway⟩ := begins.underway
  have sound := Leg.sound_of_calm ⟨.server, terms.challenge name serverKey, capacity, nonces, sender,
    .await, serverKeys, client, clientKeys⟩ room
    ⟨awaitsProof.engaged.stage, awaitsProof.engaged.exchange⟩ awaitsChallenge.toCalm
  have content (proved : terms.variant.isMutual = true →
      terms.serverProof key = terms.serverProof serverKey)
      {kind : Exchange κ SharedKey → Prop}
      (goesOn : ∀ keys exchange, Leg.Begins ⟨.client, .proof (terms.clientProof key), capacity,
        nonces, client.proving terms name, .await, keys, sender.sent .await, serverKeys⟩ exchange →
        Settles kind exchange) : Settles kind exchange :=
    underway.answered sound awaitsChallenge.toCalm rfl
      (.replies (awaitsChallenge.content proved) rfl) goesOn
  constructor
  · rintro ⟨proved, trusted⟩
    exact content proved fun keys exchange next =>
      (settles_proof room (awaitsChallenge.proving name) awaitsProof next).1 trusted
  · intro distrusts
    by_cases proved : terms.variant.isMutual = true →
        terms.serverProof key = terms.serverProof serverKey
    · exact content proved fun keys exchange next =>
        (settles_proof room (awaitsChallenge.proving name) awaitsProof next).2
          fun trusted => distrusts ⟨proved, trusted⟩
    · obtain ⟨proves, differs⟩ := Classical.not_imp.mp proved
      refine underway.answered sound awaitsChallenge.toCalm rfl
        (.replies (awaitsChallenge.wrong proves differs) rfl) fun keys exchange next => ?_
      have refuses : Engaged { client with step := .done } :=
        ⟨awaitsChallenge.engaged.stage, awaitsChallenge.engaged.exchange⟩
      exact next.refused (Leg.sound_of_calm _ room refuses awaitsProof.toCalm) rfl rfl
        awaitsProof.rejectable

def opening (capacity : Nat) (nonces : NonceSupply) (client server : SharedKey)
    (clientKeys serverKeys : κ) : Exchange κ SharedKey where
  client := { handler := client, keys := clientKeys, blob := Blob.blank capacity }
  server := { handler := server, keys := serverKeys, blob := Blob.blank capacity }
  nonces := nonces

variable {serverVariant : Variant} {answer : KeyLookup}

theorem settles_opening {kind : Exchange κ SharedKey → Prop} {next : SharedKey} {said : Message}
    {settlement : Settlement} {after : NonceSupply} (room : 0 < capacity)
    (clientPrimed : Primed terms.variant .client client)
    (serverPrimed : Primed serverVariant .server server)
    (keyEq : client.key = some key) (userEq : client.user = some terms.user)
    (drawn : nonces.draw (nonces.drawn + 1) = some terms.clientNonce)
    (fits : terms.hello.body.length ≤ longestBody)
    (comes : Comes server.listening terms.hello next said settlement after
      ⟨nonces.next.2, serverKeys⟩)
    (goesOn : ∀ keys exchange, Leg.Begins ⟨.server, said, capacity, after, next, settlement, keys,
      (client.hailing terms.clientNonce.bytes).sent .await, clientKeys⟩ exchange →
      Settles kind exchange) :
    Settles kind (opening capacity nonces client server clientKeys serverKeys) := by
  have encoded := Message.encode_of_fits fits
  have hailing := clientPrimed.hailing keyEq userEq
  have listening := serverPrimed.listening
  have sound := Leg.sound_of_calm ⟨.client, terms.hello, capacity, nonces.next.2,
    client.hailing terms.clientNonce.bytes, .await, clientKeys, server.listening, serverKeys⟩ room
    hailing.engaged listening.toCalm
  have holds : (Blob.blank capacity).capacity = capacity := List.length_replicate
  have opens : Opens ⟨.client, terms.hello, capacity, nonces.next.2,
      client.hailing terms.clientNonce.bytes, .await, clientKeys, server.listening, serverKeys⟩
      client nonces 1 (opening capacity nonces client server clientKeys serverKeys) :=
    ⟨rfl, ⟨rfl, rfl, rfl, rfl, holds⟩,
      .late (fun blob supplies => serverPrimed.produce_server blob.clear supplies)
        ⟨rfl, rfl, rfl, rfl, holds⟩, rfl, rfl, rfl⟩
  refine opens.settles sound encoded
    (fun blob => clientPrimed.produce_client userEq drawn encoded blob)
    fun size exchange underway => ?_
  exact underway.answered sound listening.toCalm rfl comes goesOn

/-- When both sides come to succeed: the server knows the user's key, and each proof satisfies. -/
def Agrees (serverVariant : Variant) (terms : Terms) (key : SecretKey) (answer : KeyLookup) : Prop :=
  serverVariant = terms.variant ∧ terms.user ≠ "" ∧
    ∃ serverKey, answer = .found serverKey ∧ Trusts terms key serverKey

theorem settles_handshake (room : 0 < capacity)
    (clientPrimed : Primed terms.variant .client client)
    (serverPrimed : Primed serverVariant .server server)
    (keyEq : client.key = some key) (userEq : client.user = some terms.user)
    (clientDraws : nonces.draw (nonces.drawn + 1) = some terms.clientNonce)
    (serverDraws : nonces.draw (nonces.drawn + 2) = some terms.serverNonce)
    (helloFits : terms.hello.body.length ≤ longestBody)
    (challengeFits : ∀ serverKey, answer = .found serverKey →
      (terms.challenge server.serverName serverKey).body.length ≤ longestBody)
    (resolves : Resolves server terms.user ⟨nonces, serverKeys⟩ answer) :
    Settles (fun last =>
        (Agrees serverVariant terms key answer → ∃ serverKey, answer = .found serverKey ∧
          Ended .success (terms.credentials server.serverName key serverKey) last) ∧
        (¬ Agrees serverVariant terms key answer → Ended .failed (fun _ => none) last))
      (opening capacity nonces client server clientKeys serverKeys) := by
  have awaitsChallenge := (clientPrimed.hailing keyEq userEq).sent
  have listening := serverPrimed.listening
  have refuses : Engaged { server.listening with step := .done } := ⟨rfl, rfl⟩
  have refused {reason : String} {after : NonceSupply}
      (disagrees : ¬ Agrees serverVariant terms key answer)
      (comes : Comes server.listening terms.hello { server.listening with step := .done }
        (.verdict false reason) (.fail reason) after ⟨nonces.next.2, serverKeys⟩) :
      Settles (fun last =>
          (Agrees serverVariant terms key answer → ∃ serverKey, answer = .found serverKey ∧
            Ended .success (terms.credentials server.serverName key serverKey) last) ∧
          (¬ Agrees serverVariant terms key answer → Ended .failed (fun _ => none) last))
        (opening capacity nonces client server clientKeys serverKeys) := by
    refine settles_opening room clientPrimed serverPrimed keyEq userEq clientDraws helloFits
      comes fun keys exchange begins => ?_
    refine (begins.refused (Leg.sound_of_calm _ room refuses awaitsChallenge.toCalm) rfl rfl
      awaitsChallenge.rejectable).imp fun last ended => ?_
    constructor
    · intro agrees
      exact absurd agrees disagrees
    · intro _
      exact ended
  by_cases sameVariant : serverVariant = terms.variant
  · subst sameVariant
    by_cases named : terms.user = ""
    · exact refused (fun agrees => agrees.2.1 named) (.replies (listening.emptyUser named) rfl)
    · have afterDraw : Resolves server terms.user ⟨nonces.next.2, serverKeys⟩ answer :=
        resolves.of_keys rfl
      have resolves' := afterDraw.listening
      rcases resolves.found_or_missing with ⟨serverKey, rfl⟩ | rfl
      · have comes := listening.comes_found named resolves' serverDraws (challengeFits _ rfl)
        refine settles_opening room clientPrimed serverPrimed keyEq userEq clientDraws
          helloFits comes fun keys exchange begins => ?_
        obtain ⟨trusted, distrusted⟩ :=
          settles_challenge room (listening.challenging serverKey) awaitsChallenge begins
        by_cases trusts : Trusts terms key serverKey
        · refine (trusted trusts).imp fun last ended => ⟨fun _ => ⟨serverKey, rfl, ended⟩, ?_⟩
          exact fun disagrees => absurd ⟨rfl, named, serverKey, rfl, trusts⟩ disagrees
        · refine (distrusted trusts).imp fun last ended => ⟨?_, fun _ => ended⟩
          rintro ⟨_, _, other, found, agrees⟩
          obtain rfl := KeyLookup.found.inj found
          exact absurd agrees trusts
      · refine refused ?_ (listening.comes_missing named helloFits resolves')
        rintro ⟨_, _, serverKey, found, _⟩
        cases found
  · exact refused (fun agrees => sameVariant agrees.1)
      (.replies (listening.otherProtocol fun same => sameVariant same.symm) rfl)

def FirstProofFails (terms : Terms) (key serverKey : SecretKey) : Prop :=
  if terms.variant.isMutual then terms.serverProof key ≠ terms.serverProof serverKey
  else terms.clientProof serverKey ≠ terms.clientProof key

theorem not_trusts_of_firstProofFails (fails : FirstProofFails terms key serverKey) :
    ¬ Trusts terms key serverKey := by
  rintro ⟨server, client⟩
  rw [FirstProofFails] at fails
  split at fails
  · rename_i proves
    exact fails (server proves)
  · exact fails client

/--
However the calls of an honest client and an honest server are ordered, they come to an end, and
both end with the same verdict. They succeed, under each other's names and with one session key, if
they speak the same protocol for a user with a name and the server finds the client's key. They fail
without a credential if the protocols differ, the user has no name, the server has no key for it, or
the first proof that is checked is wrong.
-/
theorem honest_agreement {clientBegan clientReady serverBegan serverReady : Supplies κ}
    (clientInitialised : Initialises (fresh terms.variant) clientBegan client clientReady)
    (clientBound : client.lifecycle.stage = .bound)
    (clientRole : client.lifecycle.role = some .client)
    (clientKey : client.key = some key) (clientUser : client.user = some terms.user)
    (serverInitialised : Initialises (fresh serverVariant) serverBegan server serverReady)
    (serverBound : server.lifecycle.stage = .bound)
    (serverRole : server.lifecycle.role = some .server)
    (room : 0 < capacity)
    (clientDraws : nonces.draw (nonces.drawn + 1) = some terms.clientNonce)
    (serverDraws : nonces.draw (nonces.drawn + 2) = some terms.serverNonce)
    (helloFits : terms.hello.body.length ≤ longestBody)
    (challengeFits : ∀ serverKey, answer = .found serverKey →
      (terms.challenge server.serverName serverKey).body.length ≤ longestBody)
    (resolves : Resolves server terms.user ⟨nonces, serverKeys⟩ answer) :
    (¬ ∃ run : Nat → Exchange κ SharedKey,
      run 0 = opening capacity nonces client server clientKeys serverKeys ∧
      ∀ count, ∃ side entry, (run count).call side = some (entry, run (count + 1))) ∧
    ∀ last, Reaches (opening capacity nonces client server clientKeys serverKeys) last →
      (∀ side, last.call side = none) →
      (Ended .failed (fun _ => none) last ∨ ∃ serverKey, answer = .found serverKey ∧
        Ended .success (terms.credentials server.serverName key serverKey) last) ∧
      (serverVariant = terms.variant → terms.user ≠ "" → answer = .found key →
        Ended .success (terms.credentials server.serverName key key) last) ∧
      ((serverVariant ≠ terms.variant ∨ terms.user = "" ∨ answer = .missing ∨
        ∃ serverKey, answer = .found serverKey ∧ FirstProofFails terms key serverKey) →
        Ended .failed (fun _ => none) last) := by
  have settles : Settles _ (opening capacity nonces client server clientKeys serverKeys) :=
    settles_handshake room
    (primed_initialises clientInitialised clientBound clientRole)
    (primed_initialises serverInitialised serverBound serverRole) clientKey clientUser
    clientDraws serverDraws helloFits challengeFits resolves
  refine ⟨settles.no_infinite_run, ?_⟩
  intro last reaches stuck
  obtain ⟨succeeds, fails⟩ := settles.of_stuck reaches stuck
  refine ⟨?_, ?_, ?_⟩
  · by_cases agrees : Agrees serverVariant terms key answer
    · exact Or.inr (succeeds agrees)
    · exact Or.inl (fails agrees)
  · rintro sameVariant named rfl
    obtain ⟨serverKey, found, ended⟩ :=
      succeeds ⟨sameVariant, named, key, rfl, fun _ => rfl, rfl⟩
    obtain rfl := KeyLookup.found.inj found
    exact ended
  · intro rejects
    refine fails ?_
    rintro ⟨sameVariant, named, serverKey, found, trusts⟩
    rcases rejects with differs | unnamed | missing | ⟨other, same, wrong⟩
    · exact differs sameVariant
    · exact named unnamed
    · rw [found] at missing
      cases missing
    · obtain rfl := KeyLookup.found.inj (found.symm.trans same)
      exact not_trusts_of_firstProofFails wrong trusts

def sharedKeys : Supplies MemoryKeys := ⟨.counting, MemoryKeys.insert {} "alice" ⟨[1, 2, 3]⟩⟩

def guest : Initialised (Supplies MemoryKeys) SharedKey :=
  Handler.init (fresh .p9sk2) (some ⟨"alice", "p9sk2"⟩) .client sharedKeys

def host : Initialised (Supplies MemoryKeys) SharedKey :=
  Handler.init (fresh .p9sk2) none .server sharedKeys

def meeting : Terms := ⟨.p9sk2, "alice", Nonce.repeated 1, Nonce.repeated 2⟩

theorem honest_agreement_alice :
    (guest.accepted = true ∧ host.accepted = true) ∧
      ∀ last, Reaches (opening 1 .counting guest.handler host.handler sharedKeys.keys
          sharedKeys.keys) last → (∀ side, last.call side = none) →
        Ended .success (meeting.credentials "styx" ⟨[1, 2, 3]⟩ ⟨[1, 2, 3]⟩) last := by
  refine ⟨⟨rfl, rfl⟩, ?_⟩
  intro last reaches stuck
  have clientInitialised : Initialises (fresh meeting.variant) sharedKeys guest.handler
      guest.surroundings := .live (some ⟨"alice", "p9sk2"⟩) .client
  have serverInitialised : Initialises (fresh .p9sk2) sharedKeys host.handler
      host.surroundings := .live none .server
  have clientKey : guest.handler.key = some ⟨[1, 2, 3]⟩ := rfl
  have clientUser : guest.handler.user = some meeting.user := rfl
  have looked : host.handler.lookup "alice" sharedKeys = (.found ⟨[1, 2, 3]⟩, sharedKeys) := rfl
  have helloFits : meeting.hello.body.length ≤ longestBody := by decide +kernel
  have challengeFits :
      (Message.challenge "styx" (Nonce.repeated 2).bytes none).body.length ≤ longestBody := by
    decide +kernel
  have agreement := (honest_agreement clientInitialised rfl rfl clientKey clientUser
    serverInitialised rfl rfl Nat.one_pos rfl rfl helloFits (fun _ _ => challengeFits)
    (.found looked)).2 last reaches stuck
  exact agreement.2.1 rfl (by decide) rfl

end Exchange

end Parley
