import Parley.Proofs.Exchange.Agreement
import Parley.Proofs.SharedKey.Network
import Parley.Proofs.SharedKey.Undisturbed

/-!
Matching sessions. On a network that may do anything to bytes but forge tags, whoever shows a
credential has a partner that went through the same handshake, and no proof is accepted twice.
-/

namespace Parley.SharedKey

variable {κ : Type} {start handler : SharedKey} {log : List Deed}

def acceptedProofs : List Deed → List Bytes
  | .heard (.proof tag) :: .said (.verdict true _) :: rest => tag :: acceptedProofs rest
  | _ :: rest => acceptedProofs rest
  | [] => []

theorem acceptedProofs_of_idle {rest : List Deed} (idle : ∀ deed ∈ rest, deed.Idle) :
    acceptedProofs rest = [] := by
  fun_induction acceptedProofs rest with
  | case1 tag reason rest _ => exact (idle (.said (.verdict true reason)) (by simp)).elim
  | case2 deed rest _ ih => exact ih fun deed member => idle deed (List.mem_cons_of_mem _ member)
  | case3 => rfl

theorem Standing.acceptedProofs (standing : Standing start handler log) :
    acceptedProofs log = [] ∨
      ∃ terms key server, Holds start .server terms key handler.memory ∧
        acceptedProofs log = [terms.clientProof key] ∧ terms.serverDeeds key server <+: log := by
  obtain ⟨story, rest, rfl, storyEq, idle⟩ := standing.told
  have noneLater := acceptedProofs_of_idle idle
  cases storyEq with
  | silent => exact Or.inl noneLater
  | proved _ _ => exact Or.inl noneLater
  | challenged _ _ => exact Or.inl noneLater
  | @accepted terms key holds server =>
      refine Or.inr ⟨terms, key, server, holds, ?_, ?_⟩
      · have once : SharedKey.acceptedProofs (terms.serverDeeds key server ++
            terms.acceptance key ++ rest) =
              terms.clientProof key :: SharedKey.acceptedProofs rest := rfl
        rw [once, noneLater]
      · rw [List.append_assoc]
        exact List.prefix_append _ _

theorem Success.sessionKey_eq {credential : Credential} {memory : Memory} {terms : Terms}
    {key : SecretKey} (success : Success start memory log credential)
    (memoryEq : memory = terms.memory key) : credential.sessionKey = terms.sessionKey key := by
  cases success with
  | client holds _ _ =>
      obtain ⟨rfl, rfl⟩ := Terms.eq_of_memory_eq (holds.memory.symm.trans memoryEq)
      rfl
  | server holds _ =>
      obtain ⟨rfl, rfl⟩ := Terms.eq_of_memory_eq (holds.memory.symm.trans memoryEq)
      rfl

variable [KeyStore κ] {ι : Type} [DecidableEq ι] {starts : ι → SharedKey}
  {trace : List (ι × Deed)} {now : ι → Posture} {honest : SecretKey → Prop}

theorem Run.client_of_server (run : Run κ starts trace now) (prepared : Prepared κ starts)
    (unforgeable : Unforgeable honest trace now) {i : ι} {key : SecretKey} {credential : Credential}
    (role : (starts i).lifecycle.role = some .server)
    (shown : (face (now i).handler).credential = some credential)
    (keyEq : (now i).handler.key = some key) (keyHonest : honest key) :
    ∃ terms server j name, Holds (starts i) .server terms key (now i).handler.memory ∧
      credential = ⟨terms.user, terms.variant.protocol, terms.sessionKey key⟩ ∧
      deedsOf i trace = terms.serverDeeds key server ++ terms.acceptance key ∧
      Holds (starts j) .client terms key (now j).handler.memory ∧
      ((terms.clientDeeds key name).map (j, ·) ++
        [(i, Deed.heard (.proof (terms.clientProof key)))]).Sublist trace := by
  have success := (run.standing prepared i).success shown
  generalize done : deedsOf i trace = deeds at success
  cases success with
  | client holds _ _ => simp [holds.began] at role
  | @server terms known holds server =>
      obtain rfl := Option.some.inj (keyEq.symm.trans holds.key_eq)
      have heard : (i, Deed.heard (.proof (terms.clientProof key))) ∈ trace :=
        mem_deedsOf_iff.mp (by rw [done]; simp [Terms.acceptance])
      obtain ⟨j, name, same, before⟩ := run.origin prepared unforgeable heard
        ⟨i, terms, .client, holds.memory, by simp, rfl⟩ keyHonest rfl
      exact ⟨terms, server, j, name, holds, rfl, rfl, same, before⟩

theorem Run.server_of_client (run : Run κ starts trace now) (prepared : Prepared κ starts)
    (unforgeable : Unforgeable honest trace now) {i : ι} {key : SecretKey} {credential : Credential}
    (role : (starts i).lifecycle.role = some .client) (variant : (starts i).variant = .p9sk1)
    (shown : (face (now i).handler).credential = some credential)
    (keyEq : (now i).handler.key = some key) (keyHonest : honest key) :
    ∃ terms server j name, Holds (starts i) .client terms key (now i).handler.memory ∧
      credential.sessionKey = terms.sessionKey key ∧
      terms.clientDeeds key server <+: deedsOf i trace ∧
      Holds (starts j) .server terms key (now j).handler.memory ∧
      ((terms.serverDeeds key name).map (j, ·) ++
        [(i, Deed.heard (terms.challenge server key))]).Sublist trace := by
  have success := (run.standing prepared i).success shown
  generalize done : deedsOf i trace = deeds at success
  cases success with
  | server holds _ => simp [holds.began] at role
  | @client terms known holds server reason =>
      obtain rfl := Option.some.inj (keyEq.symm.trans holds.key_eq)
      have asked : terms.variant.isMutual = true := by
        rw [← holds.variant, variant]
        rfl
      have tagged : (terms.challenge server key).tag? =
          some ((terms.transcript .server).tag key) := by
        rw [Terms.challenge, if_pos asked]
        rfl
      have heard : (i, Deed.heard (terms.challenge server key)) ∈ trace :=
        mem_deedsOf_iff.mp (by rw [done]; simp [Terms.clientDeeds])
      obtain ⟨j, name, same, before⟩ := run.origin prepared unforgeable heard
        ⟨i, terms, .server, holds.memory, fun _ => asked, rfl⟩ keyHonest tagged
      exact ⟨terms, server, j, name, holds, rfl, List.prefix_append _ _, same, before⟩

def FreshChallenges (trace : List (ι × Deed)) : Prop :=
  ∀ i j server name nonce tag other, (i, .said (.challenge server nonce tag)) ∈ trace →
    (j, .said (.challenge name nonce other)) ∈ trace → i = j

theorem Run.accepted_once (run : Run κ starts trace now) (prepared : Prepared κ starts)
    (unforgeable : Unforgeable honest trace now) (fresh : FreshChallenges trace) {i j : ι}
    {tag : Bytes} (accepted : tag ∈ acceptedProofs (deedsOf i trace))
    (accepted' : tag ∈ acceptedProofs (deedsOf j trace)) : i = j := by
  have served {i : ι} (accepted : tag ∈ acceptedProofs (deedsOf i trace)) :
      ∃ (terms : Terms) (key : SecretKey) (server : String),
        Occurs now key (terms.transcript .client) ∧ tag = (terms.transcript .client).tag key ∧
          (i, Deed.said (terms.challenge server key)) ∈ trace := by
    rcases (run.standing prepared i).acceptedProofs with
      noneAccepted | ⟨terms, key, server, holds, only, before⟩
    · simp [noneAccepted] at accepted
    · rw [only, List.mem_singleton] at accepted
      exact ⟨terms, key, server, ⟨i, terms, .client, holds.memory, by simp, rfl⟩, accepted,
        mem_deedsOf_iff.mp (before.subset (by simp [Terms.serverDeeds]))⟩
  obtain ⟨terms, key, server, occurs, rfl, said⟩ := served accepted
  obtain ⟨other, known, name, occurs', same, said'⟩ := served accepted'
  obtain ⟨rfl, _, _⟩ := unforgeable.eq_of_tag_eq occurs occurs' same
  exact fresh i j server name _ _ _ said said'

/-! ## Undisturbed runs -/

/-- Every tag of this key that is delivered was in a message that some handler sent before. -/
def Relayed {ι : Type} (key : SecretKey) (trace : List (ι × Deed)) : Prop :=
  ∀ early late i message transcript, trace = early ++ (i, .heard message) :: late →
    message.tag? = some (Transcript.tag transcript key) →
    ∃ j sent, (j, .said sent) ∈ early ∧ sent.tag? = some (transcript.tag key)

omit [DecidableEq ι] in
theorem unforgeable_of_relayed {terms : Terms} {key : SecretKey}
    (memory : ∀ i, (now i).handler.memory = terms.memory key)
    (apart : terms.serverProof key ≠ terms.clientProof key) (relayed : Relayed key trace) :
    Unforgeable honest trace now where
  distinct := by
    rintro _ _ _ _ ⟨i, one, role, oneMemory, _, rfl⟩ ⟨j, other, side, otherMemory, _, rfl⟩ same
    obtain ⟨rfl, rfl⟩ := Terms.eq_of_memory_eq ((memory i).symm.trans oneMemory)
    obtain ⟨rfl, rfl⟩ := Terms.eq_of_memory_eq ((memory j).symm.trans otherMemory)
    cases role <;> cases side
    · exact ⟨rfl, rfl⟩
    · exact absurd same.symm apart
    · exact absurd same apart
    · exact ⟨rfl, rfl⟩
  unforged := by
    rintro early late i message _ _ split ⟨j, one, role, oneMemory, _, rfl⟩ _ tagged
    obtain ⟨rfl, rfl⟩ := Terms.eq_of_memory_eq ((memory j).symm.trans oneMemory)
    exact relayed early late i message _ split tagged

omit [DecidableEq ι] in
theorem unforgeable_of_replayed {terms : Terms} {key : SecretKey}
    (memory : ∀ i, (now i).handler.memory = terms.memory key)
    (apart : terms.serverProof key ≠ terms.clientProof key)
    (replayed : ∀ early late i message, trace = early ++ (i, Deed.heard message) :: late →
      ∃ j, (j, Deed.said message) ∈ early) :
    Unforgeable honest trace now := by
  refine unforgeable_of_relayed memory apart fun early late i message transcript split tagged => ?_
  obtain ⟨j, said⟩ := replayed early late i message split
  exact ⟨j, message, said, tagged⟩

theorem Run.during (run : Run κ starts trace now) {i : ι} {more : List Deed} {next : Posture}
    (idle : (now i).engaged = false) (life : Life κ (now i).handler more next) :
    Run κ starts (trace ++ more.map (i, ·)) fun j => if j = i then next else now j := by
  induction life with
  | begin =>
      have same : (fun j => if j = i then ⟨(now i).handler, false⟩ else now j) = now := by
        funext j
        split
        · rename_i same
          rw [same, ← idle]
        · rfl
      rw [same, List.map_nil, List.append_nil]
      exact run
  | @move early late middle next _ move ih =>
      have atI : (if i = i then middle else now i) = middle := if_pos rfl
      rw [← atI] at move
      have moved := ih.move move
      have same : (fun j => if j = i then next else if j = i then middle else now j) =
          fun j => if j = i then next else now j := by
        funext j
        split <;> rfl
      rw [same, List.append_assoc, ← List.map_append] at moved
      exact moved

omit [KeyStore κ] in
theorem AwaitsProof.memory_eq {terms : Terms} {key : SecretKey} {server : SharedKey}
    (awaits : AwaitsProof terms key server) : server.memory = terms.memory key := by
  rw [memory, awaits.variant, awaits.key, awaits.user, awaits.clientNonce, awaits.serverNonce]
  rfl

omit [KeyStore κ] in
theorem AwaitsVerdict.memory_eq {terms : Terms} {key : SecretKey} {name : String}
    {client : SharedKey} (awaits : AwaitsVerdict terms key name client) :
    client.memory = terms.memory key := by
  rw [memory, awaits.variant, awaits.key, awaits.user, awaits.clientNonce, awaits.serverNonce]
  rfl

def conversation (terms : Terms) (key : SecretKey) (server : String) : List (Role × Deed) :=
  [(.client, .drew terms.clientNonce), (.client, .said terms.hello), (.server, .heard terms.hello),
    (.server, .drew terms.serverNonce), (.server, .said (terms.challenge server key)),
    (.client, .heard (terms.challenge server key)),
    (.client, .said (.proof (terms.clientProof key))),
    (.server, .heard (.proof (terms.clientProof key))), (.server, .said (.verdict true "")),
    (.client, .heard (.verdict true ""))]

def misnamed (terms : Terms) (key : SecretKey) (announced delivered : String) :
    List (Role × Deed) :=
  [(.client, .drew terms.clientNonce), (.client, .said terms.hello), (.server, .heard terms.hello),
    (.server, .drew terms.serverNonce), (.server, .said (terms.challenge announced key)),
    (.client, .heard (terms.challenge delivered key)),
    (.client, .said (.proof (terms.clientProof key))),
    (.server, .heard (.proof (terms.clientProof key))), (.server, .said (.verdict true "")),
    (.client, .heard (.verdict true ""))]

theorem Run.misnamed {sides : Role → SharedKey} {terms : Terms} {key : SecretKey}
    {first second third last : Supplies κ} (client : Primed terms.variant .client (sides .client))
    (server : Primed terms.variant .server (sides .server))
    (userEq : (sides .client).user = some terms.user) (keyEq : (sides .client).key = some key)
    (drawn : first.drawNonce = (some terms.clientNonce, second)) (named : terms.user ≠ "")
    (found : (sides .server).lookup terms.user second = (.found key, third))
    (drawn' : third.drawNonce = (some terms.serverNonce, last))
    (helloFits : terms.hello.body.length ≤ longestBody)
    (fits : (terms.challenge (sides .server).serverName key).body.length ≤ longestBody)
    (delivered : String)
    (deliveredFits : (terms.challenge delivered key).body.length ≤ longestBody) :
    ∃ now, Run κ sides (SharedKey.misnamed terms key (sides .server).serverName delivered) now ∧
      (∀ role, (now role).handler.memory = terms.memory key) ∧
      ∀ role, (face (now role).handler).credential = terms.credentials delivered key key role := by
  have hails := client.life_client userEq drawn helloFits
  have awaitsChallenge := (client.hailing keyEq userEq).sent
  have listens := server.life_server second
  have awaitsHello : AwaitsHello terms.variant (sides .server).listening := server.listening
  have challenges := awaitsHello.life named helloFits fits found drawn'
  have proves := awaitsChallenge.life delivered deliveredFits last
  have awaitsProof := awaitsHello.challenging key
  have awaitsVerdict := awaitsChallenge.proving delivered
  obtain ⟨served, accepts, serverShown, serverMemory⟩ := awaitsProof.life last
  obtain ⟨admitted, ends, clientShown, clientMemory⟩ := awaitsVerdict.life last
  have run : Run κ sides [] fun role => ⟨sides role, false⟩ := .begin
  have run := run.during (i := .client) rfl hails
  have run := run.during (i := .server) rfl listens
  have run := run.during (i := .server) rfl challenges
  have run := run.during (i := .client) rfl proves
  have run := run.during (i := .server) rfl accepts
  have run := run.during (i := .client) rfl ends
  refine ⟨_, run, ?_, ?_⟩
  · rintro (_ | _)
    · exact clientMemory.trans awaitsVerdict.memory_eq
    · exact serverMemory.trans awaitsProof.memory_eq
  · rintro (_ | _)
    · exact clientShown
    · exact serverShown

theorem Run.undisturbed {sides : Role → SharedKey} {terms : Terms} {key : SecretKey}
    {first second third last : Supplies κ} (client : Primed terms.variant .client (sides .client))
    (server : Primed terms.variant .server (sides .server))
    (userEq : (sides .client).user = some terms.user) (keyEq : (sides .client).key = some key)
    (drawn : first.drawNonce = (some terms.clientNonce, second)) (named : terms.user ≠ "")
    (found : (sides .server).lookup terms.user second = (.found key, third))
    (drawn' : third.drawNonce = (some terms.serverNonce, last))
    (helloFits : terms.hello.body.length ≤ longestBody)
    (fits : (terms.challenge (sides .server).serverName key).body.length ≤ longestBody) :
    ∃ now, Run κ sides (conversation terms key (sides .server).serverName) now ∧
      (∀ role, (now role).handler.memory = terms.memory key) ∧
      ∀ role, (face (now role).handler).credential =
        terms.credentials (sides .server).serverName key key role :=
  Run.misnamed client server userEq keyEq drawn named found drawn' helloFits fits
    (sides .server).serverName fits

/-- What is heard was said before, but for the name that the server has announced. -/
theorem replayed_misnamed {terms : Terms} {key : SecretKey} {announced delivered : String}
    {early late : List (Role × Deed)} {i : Role} {message : Message}
    (split : misnamed terms key announced delivered = early ++ (i, .heard message) :: late) :
    ∃ j sent, (j, .said sent) ∈ early ∧
      (sent = message ∨
        sent = terms.challenge announced key ∧ message = terms.challenge delivered key) := by
  simp only [misnamed, List.cons_eq_append_iff, List.nil_eq_append_iff, List.cons.injEq,
    Prod.mk.injEq, Deed.heard.injEq, reduceCtorEq, and_false, false_and, false_or, exists_false,
    or_false] at split
  -- The message is the hello, the challenge, the proof or the verdict.
  obtain ⟨_, rfl, _, rfl, split⟩ := split
  rcases split with ⟨rfl, ⟨rfl, rfl⟩, _⟩ | ⟨_, rfl, _, rfl, _, rfl, split⟩
  · exact ⟨.client, terms.hello, by simp, Or.inl rfl⟩
  rcases split with ⟨rfl, ⟨rfl, rfl⟩, _⟩ | ⟨_, rfl, _, rfl, split⟩
  · exact ⟨.server, terms.challenge announced key, by simp, Or.inr ⟨rfl, rfl⟩⟩
  rcases split with ⟨rfl, ⟨rfl, rfl⟩, _⟩ | ⟨_, rfl, _, rfl, rfl, ⟨rfl, rfl⟩, _⟩
  · exact ⟨.client, .proof (terms.clientProof key), by simp, Or.inl rfl⟩
  · exact ⟨.server, .verdict true "", by simp, Or.inl rfl⟩

theorem replayed_conversation {terms : Terms} {key : SecretKey} {server : String}
    {early late : List (Role × Deed)} {i : Role} {message : Message}
    (split : conversation terms key server = early ++ (i, .heard message) :: late) :
    ∃ j, (j, .said message) ∈ early := by
  obtain ⟨j, sent, said, same | ⟨same, heard⟩⟩ := replayed_misnamed split
  · exact ⟨j, same ▸ said⟩
  · rw [heard, ← same]
    exact ⟨j, said⟩

theorem fresh_conversation (terms : Terms) (key : SecretKey) (server : String) :
    FreshChallenges (conversation terms key server) := by
  intro i j _ _ _ _ _ said said'
  simp [conversation, Terms.hello, Terms.challenge] at said said'
  rw [said.1, said'.1]

/-! ## Matching sessions -/

/--
Under an honest key, a server that shows a credential has a client with the same variant, key, user
and nonces, which did all that a client does before the server heard its proof, and if both show
credentials, these hold the same session key. A client of the mutual variant that shows a credential
has such a server, which did all that a server does before the client heard its challenge. No proof
is accepted twice if the servers' nonces differ.
-/
theorem matching_sessions (prepared : Prepared κ starts) (run : Run κ starts trace now)
    (unforgeable : Unforgeable honest trace now) :
    (∀ i key credential, (starts i).lifecycle.role = some .server →
      (face (now i).handler).credential = some credential → (now i).handler.key = some key →
      honest key →
      ∃ terms server j name, Holds (starts i) .server terms key (now i).handler.memory ∧
        credential = ⟨terms.user, terms.variant.protocol, terms.sessionKey key⟩ ∧
        deedsOf i trace = terms.serverDeeds key server ++ terms.acceptance key ∧
        Holds (starts j) .client terms key (now j).handler.memory ∧
        ((terms.clientDeeds key name).map (j, ·) ++
          [(i, Deed.heard (.proof (terms.clientProof key)))]).Sublist trace ∧
        ∀ other, (face (now j).handler).credential = some other →
          other.sessionKey = credential.sessionKey) ∧
    (∀ i key credential, (starts i).lifecycle.role = some .client → (starts i).variant = .p9sk1 →
      (face (now i).handler).credential = some credential → (now i).handler.key = some key →
      honest key →
      ∃ terms server j name, Holds (starts i) .client terms key (now i).handler.memory ∧
        credential.sessionKey = terms.sessionKey key ∧
        terms.clientDeeds key server <+: deedsOf i trace ∧
        Holds (starts j) .server terms key (now j).handler.memory ∧
        ((terms.serverDeeds key name).map (j, ·) ++
          [(i, Deed.heard (terms.challenge server key))]).Sublist trace) ∧
    (FreshChallenges trace →
      (∀ i j tag, tag ∈ acceptedProofs (deedsOf i trace) → tag ∈ acceptedProofs (deedsOf j trace) →
        i = j) ∧
      ∀ i, (acceptedProofs (deedsOf i trace)).length ≤ 1) := by
  refine ⟨?_, ?_, fun fresh => ⟨fun i j tag => run.accepted_once prepared unforgeable fresh, ?_⟩⟩
  · intro i key credential role shown key_eq keyHonest
    obtain ⟨terms, server, j, name, holds, rfl, deeds, same, before⟩ :=
      run.client_of_server prepared unforgeable role shown key_eq keyHonest
    refine ⟨terms, server, j, name, holds, rfl, deeds, same, before, fun other shown' => ?_⟩
    exact ((run.standing prepared j).success shown').sessionKey_eq same.memory
  · intro i key credential role variant shown key_eq keyHonest
    exact run.server_of_client prepared unforgeable role variant shown key_eq keyHonest
  · intro i
    rcases (run.standing prepared i).acceptedProofs with noneAccepted | ⟨_, _, _, _, only, _⟩
    · rw [noneAccepted]
      exact Nat.zero_le 1
    · rw [only]
      exact Nat.le_refl 1

def aliceHost : Initialised (Supplies MemoryKeys) SharedKey :=
  Handler.init (fresh .p9sk1) none .server aliceSupplies

def aliceSides : Role → SharedKey
  | .client => alice.handler
  | .server => aliceHost.handler

theorem prepared_alice : Prepared MemoryKeys aliceSides := by
  rintro (_ | _)
  · exact ⟨_, _, _, initialises_alice⟩
  · exact ⟨.p9sk1, aliceSupplies, aliceHost.surroundings, .live none .server⟩

theorem aliceProofs_ne : aliceTerms.serverProof aliceKey ≠ aliceTerms.clientProof aliceKey := by
  decide +kernel

theorem matching_sessions_alice :
    ∃ trace now credential shown,
      Run MemoryKeys aliceSides trace now ∧ Unforgeable (fun key => key = aliceKey) trace now ∧
      FreshChallenges trace ∧ (face (now .server).handler).credential = some credential ∧
      (face (now .client).handler).credential = some shown ∧
      (∃ terms j name, Holds (aliceSides j) .client terms aliceKey (now j).handler.memory ∧
        ((terms.clientDeeds aliceKey name).map (j, ·) ++
          [(Role.server, Deed.heard (.proof (terms.clientProof aliceKey)))]).Sublist trace) ∧
      (∃ terms server j name, Holds (aliceSides j) .server terms aliceKey (now j).handler.memory ∧
        ((terms.serverDeeds aliceKey name).map (j, ·) ++
          [(Role.client, Deed.heard (terms.challenge server aliceKey))]).Sublist trace) ∧
      (acceptedProofs (deedsOf .server trace)).length ≤ 1 := by
  have client : Primed aliceTerms.variant .client (aliceSides .client) :=
    primed_initialises initialises_alice rfl rfl
  have initialised : Initialises (fresh .p9sk1) aliceSupplies aliceHost.handler
      aliceHost.surroundings := .live none .server
  have server : Primed aliceTerms.variant .server (aliceSides .server) :=
    primed_initialises initialised rfl rfl
  have drawn : aliceSupplies.drawNonce =
      (some aliceTerms.clientNonce, aliceSupplies.drawNonce.2) := rfl
  have found : (aliceSides .server).lookup aliceTerms.user aliceSupplies.drawNonce.2 =
      (.found aliceKey, aliceSupplies.drawNonce.2) := rfl
  have keyEq : (aliceSides .client).key = some aliceKey := rfl
  obtain ⟨now, run, memory, shown⟩ := Run.undisturbed client server rfl keyEq drawn (by decide)
    found rfl fits_alice.1 fits_alice.2
  have unforgeable : Unforgeable (fun key => key = aliceKey)
      (conversation aliceTerms aliceKey (aliceSides .server).serverName) now :=
    unforgeable_of_replayed memory aliceProofs_ne fun _ _ _ _ => replayed_conversation
  have fresh := fresh_conversation aliceTerms aliceKey (aliceSides .server).serverName
  obtain ⟨servers, clients, proofs⟩ := matching_sessions prepared_alice run unforgeable
  obtain ⟨_, _, j, name, _, _, _, holds, before, _⟩ :=
    servers .server aliceKey _ rfl (shown .server) (congrArg Memory.key (memory .server)) rfl
  obtain ⟨_, server, i, other, _, _, _, holds', before'⟩ :=
    clients .client aliceKey _ rfl rfl (shown .client) (congrArg Memory.key (memory .client)) rfl
  exact ⟨_, now, _, _, run, unforgeable, fresh, shown .server, shown .client,
    ⟨_, j, name, holds, before⟩, ⟨_, server, i, other, holds', before'⟩, (proofs fresh).2 .server⟩

end Parley.SharedKey
