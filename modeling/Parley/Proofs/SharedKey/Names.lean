import Parley.Proofs.SharedKey.Matching

/-!
The name that a client takes for its server's. Tags cover the protocol, both nonces and the user,
but not the name in a challenge: a client believes the name that is delivered with a tag of its
server, whether or not that server has announced it.
-/

namespace Parley.SharedKey

variable {start handler : SharedKey} {log : List Deed}

theorem Standing.challenge_eq (standing : Standing start handler log) {server name : String}
    {nonce other : Bytes} {tag shown : Option Bytes}
    (said : .said (.challenge server nonce tag) ∈ log)
    (said' : .said (.challenge name other shown) ∈ log) :
    server = name ∧ nonce = other ∧ tag = shown := by
  obtain ⟨story, rest, rfl, storyEq, idle⟩ := standing.told
  have told {server : String} {nonce : Bytes} {tag : Option Bytes}
      (said : .said (.challenge server nonce tag) ∈ story ++ rest) :
      .said (.challenge server nonce tag) ∈ story := by
    rcases List.mem_append.mp said with early | late
    · exact early
    · exact (idle _ late).elim
  have early := told said
  have early' := told said'
  cases storyEq with
  | silent => simp at early
  | proved _ _ => simp [Terms.clientDeeds, Terms.hello] at early
  | challenged _ _ =>
      simp only [Terms.serverDeeds, Terms.challenge, List.mem_cons, Deed.said.injEq,
        Message.challenge.injEq, reduceCtorEq, false_or, List.not_mem_nil, or_false] at early early'
      obtain ⟨rfl, rfl, rfl⟩ := early
      obtain ⟨rfl, rfl, rfl⟩ := early'
      exact ⟨rfl, rfl, rfl⟩
  | accepted _ _ =>
      simp only [Terms.serverDeeds, Terms.acceptance, Terms.challenge, List.cons_append,
        List.nil_append, List.mem_cons, Deed.said.injEq, Message.challenge.injEq, reduceCtorEq,
        false_or, List.not_mem_nil, or_false] at early early'
      obtain ⟨rfl, rfl, rfl⟩ := early
      obtain ⟨rfl, rfl, rfl⟩ := early'
      exact ⟨rfl, rfl, rfl⟩

theorem relayed_misnamed (terms : Terms) (key : SecretKey) (announced delivered : String) :
    Relayed key (misnamed terms key announced delivered) := by
  intro early late i message transcript split tagged
  obtain ⟨j, sent, said, same | ⟨rfl, rfl⟩⟩ := replayed_misnamed split
  · exact ⟨j, sent, said, same ▸ tagged⟩
  · exact ⟨j, _, said, tagged⟩

variable {κ : Type} [KeyStore κ] {sides : Role → SharedKey} {key : SecretKey}
  {trace : List (Role × Deed)} {now : Role → Posture}

/-- Before a client hears its server's tag it has shown none, so that tag is the server's. -/
theorem Run.announced (prepared : Prepared κ sides) (run : Run κ sides trace now)
    (relayed : Relayed key trace) (serverRole : (sides .server).lifecycle.role = some .server)
    {terms : Terms} {server reason : String}
    (done : deedsOf .client trace = terms.clientDeeds key server ++ [.heard (.verdict true reason)])
    (asked : terms.variant.isMutual = true) :
    ∃ other known name, Shown (sides .server) (now .server).handler.memory (deedsOf .server trace)
        (Terms.challenge other name known) .server other known ∧
      other.serverProof known = terms.serverProof key ∧
      [(Role.server, Deed.said (other.challenge name known)),
        (Role.client, .heard (terms.challenge server key))].Sublist trace := by
  have heard : (Role.client, Deed.heard (terms.challenge server key)) ∈ trace :=
    mem_deedsOf_iff.mp (by rw [done]; simp [Terms.clientDeeds])
  have tagged : (terms.challenge server key).tag? =
      some ((terms.transcript .server).tag key) := by
    rw [Terms.challenge, if_pos asked]
    rfl
  obtain ⟨early, late, split, first⟩ := List.eq_append_cons_of_mem heard
  obtain ⟨j, sent, said, tagEq⟩ := relayed early late .client _ _ split tagged
  have within (i : Role) : deedsOf i early <+: deedsOf i trace := by
    rw [split, deedsOf_append]
    exact List.prefix_append _ _
  have told := mem_deedsOf_iff.mpr said
  cases j with
  | client =>
    -- The only tag of the client's is its proof, which comes after the challenge: too late.
    have same : sent = .proof (terms.clientProof key) := by
      have member := (within .client).subset told
      simp only [done, Terms.clientDeeds, List.cons_append, List.nil_append, List.mem_cons,
        Deed.said.injEq, reduceCtorEq, false_or, List.not_mem_nil, or_false] at member
      refine member.resolve_left fun hello => ?_
      rw [hello] at tagEq
      cases tagEq
    subst same
    have before : [Deed.drew terms.clientNonce, .said terms.hello,
        .heard (terms.challenge server key)] ++ [.said (.proof (terms.clientProof key))] <+:
          deedsOf .client trace := by
      rw [done]
      exact List.prefix_append _ _
    have past := prefix_of_mem before (within .client) told (by simp [Terms.hello])
    exact absurd (mem_deedsOf_iff.mp (past.subset (by simp))) first
  | server =>
    obtain ⟨side, other, known, shown⟩ :=
      (run.standing prepared .server).shown ((within .server).subset told) tagEq
    obtain rfl : side = .server := Option.some.inj (shown.holds.began.symm.trans serverRole)
    obtain ⟨name, front, deeds, _, _⟩ := shown.deeds
    obtain rfl : sent = other.challenge name known := by
      have last := congrArg List.getLast? deeds
      simpa [Terms.deeds, Terms.serverDeeds] using last.symm
    refine ⟨other, known, name, shown, ?_, ?_⟩
    · exact Option.some.inj (shown.tag_eq.symm.trans tagEq)
    · rw [split]
      exact (List.singleton_sublist.mpr said).append ((List.nil_sublist late).cons_cons _)

/--
A client of the mutual variant that shows a credential has heard one challenge, and the credential
names whoever that challenge names. Its tag is that of the one challenge which the server has sent
before; so the credential has the name that the server has announced exactly if the name was left
unaltered. What else the challenge holds, the nonce, is the server's if tags tell apart what they
are made of.
-/
theorem peer_as_delivered {credential : Credential} (prepared : Prepared κ sides)
    (run : Run κ sides trace now) (relayed : Relayed key trace)
    (clientRole : (sides .client).lifecycle.role = some .client)
    (serverRole : (sides .server).lifecycle.role = some .server)
    (variant : (sides .client).variant = .p9sk1) (keyEq : (sides .client).key = some key)
    (shown : (face (now .client).handler).credential = some credential) :
    ∃ announced delivered nonce received tag,
      [(Role.server, Deed.said (.challenge announced nonce (some tag))),
        (Role.client, .heard (.challenge delivered received (some tag)))].Sublist trace ∧
      (∀ name other shown, (.server, .said (.challenge name other shown)) ∈ trace →
        name = announced ∧ other = nonce ∧ shown = some tag) ∧
      (∀ name other shown, (.client, .heard (.challenge name other shown)) ∈ trace →
        name = delivered ∧ other = received ∧ shown = some tag) ∧
      credential.peer = delivered ∧
      (Unforgeable (fun honest => honest = key) trace now → nonce = received) := by
  have success := (run.standing prepared .client).success shown
  generalize done : deedsOf .client trace = deeds at success
  cases success with
  | server holds _ => simp [holds.began] at clientRole
  | @client terms known holds delivered reason =>
      obtain rfl := Option.some.inj ((holds.client rfl).2.symm.trans keyEq)
      have asked : terms.variant.isMutual = true := by
        rw [← holds.variant, variant]
        rfl
      obtain ⟨other, honest, announced, sent, tagEq, before⟩ :=
        run.announced prepared relayed serverRole done asked
      have asked' := sent.mutualServer rfl
      have challenge : other.challenge announced honest =
          .challenge announced other.serverNonce.bytes (some (terms.serverProof known)) := by
        rw [Terms.challenge, if_pos asked', tagEq]
      have heard : terms.challenge delivered known =
          .challenge delivered terms.serverNonce.bytes (some (terms.serverProof known)) := by
        rw [Terms.challenge, if_pos asked]
      rw [challenge, heard] at before
      refine ⟨announced, delivered, _, _, _, before, ?_, ?_, rfl, fun unforgeable => ?_⟩
      · intro name nonce tag said
        exact (run.standing prepared .server).challenge_eq (mem_deedsOf_iff.mpr said)
          (mem_deedsOf_iff.mpr (before.subset (by simp)))
      · intro name nonce tag told
        have member := mem_deedsOf_iff.mpr told
        simpa [done, Terms.clientDeeds, heard] using member
      · have occurs : Occurs now known (terms.transcript .server) :=
          ⟨.client, terms, .server, holds.memory, fun _ => asked, rfl⟩
        have occurs' : Occurs now honest (other.transcript .server) :=
          ⟨.server, other, .server, sent.holds.memory, fun _ => asked', rfl⟩
        obtain ⟨rfl, _, _⟩ := unforgeable.eq_of_tag_eq occurs' occurs tagEq
        rfl

theorem fits_mallory : (aliceTerms.challenge "mallory" aliceKey).body.length ≤ longestBody := by
  have challenge := Message.length_challenge "mallory" (Nonce.repeated 2).bytes
    (some (aliceTerms.serverProof aliceKey))
  have name : Json.written "mallory" = 7 := by decide
  have nonce : nonceLength = 16 := rfl
  have longest : longestBody = 2048 := rfl
  rw [Hex.written_encode, Hex.written_encode, (Nonce.repeated 2).length_eq, Option.getD_some,
    Terms.serverProof, Transcript.tag, Hmac.length_tag] at challenge
  exact Nat.le_trans challenge (by omega)

theorem run_mallory :
    ∃ now, Run MemoryKeys aliceSides (misnamed aliceTerms aliceKey "styx" "mallory") now ∧
      Unforgeable (fun key => key = aliceKey) (misnamed aliceTerms aliceKey "styx" "mallory") now ∧
      (∀ role, (now role).handler.memory = aliceTerms.memory aliceKey) ∧
      ∀ role, (face (now role).handler).credential =
        aliceTerms.credentials "mallory" aliceKey aliceKey role := by
  have client : Primed aliceTerms.variant .client (aliceSides .client) :=
    primed_initialises initialises_alice rfl rfl
  have initialised : Initialises (fresh .p9sk1) aliceSupplies aliceHost.handler
      aliceHost.surroundings := .live none .server
  have server : Primed aliceTerms.variant .server (aliceSides .server) :=
    primed_initialises initialised rfl rfl
  have drawn : aliceSupplies.drawNonce =
      (some aliceTerms.clientNonce, aliceSupplies.drawNonce.2) := rfl
  have found : (aliceSides .server).lookup aliceTerms.user aliceSupplies.drawNonce.2 =
      (.found aliceKey, aliceSupplies.drawNonce.2) := rfl
  have keyEq : (aliceSides .client).key = some aliceKey := rfl
  obtain ⟨now, run, memory, shown⟩ := Run.misnamed client server rfl keyEq drawn (by decide)
    found rfl fits_alice.1 fits_alice.2 "mallory" fits_mallory
  refine ⟨now, run, ?_, memory, shown⟩
  exact unforgeable_of_relayed memory aliceProofs_ne (relayed_misnamed _ _ _ _)

theorem peer_as_delivered_mallory :
    ∃ trace now credential,
      Run MemoryKeys aliceSides trace now ∧ Relayed aliceKey trace ∧
      (face (now .client).handler).credential = some credential ∧
      ∃ announced delivered nonce received tag,
        [(Role.server, Deed.said (.challenge announced nonce (some tag))),
          (Role.client, .heard (.challenge delivered received (some tag)))].Sublist trace ∧
        credential.peer = delivered ∧ nonce = received := by
  obtain ⟨now, run, unforgeable, _, shown⟩ := run_mallory
  have relayed : Relayed aliceKey (misnamed aliceTerms aliceKey "styx" "mallory") :=
    relayed_misnamed _ _ _ _
  obtain ⟨announced, delivered, nonce, received, tag, before, _, _, named, same⟩ :=
    peer_as_delivered prepared_alice run relayed rfl rfl rfl rfl (shown .client)
  exact ⟨_, now, _, run, relayed, shown .client, announced, delivered, nonce, received, tag,
    before, named, same unforgeable⟩

/-- Tags are relayed and cannot be forged, and yet the server goes by a name it never gave. -/
theorem peer_misnamed :
    ∃ trace now credential,
      Prepared MemoryKeys aliceSides ∧
      (∀ role, (aliceSides role).variant = .p9sk1 ∧
        (aliceSides role).lifecycle.role = some role ∧ (now role).handler.key = some aliceKey) ∧
      Run MemoryKeys aliceSides trace now ∧ Relayed aliceKey trace ∧
      Unforgeable (fun key => key = aliceKey) trace now ∧
      (face (now .client).handler).credential = some credential ∧
      (∃ name nonce tag, (.server, .said (.challenge name nonce tag)) ∈ trace) ∧
      ∀ name nonce tag, (.server, .said (.challenge name nonce tag)) ∈ trace →
        credential.peer ≠ name := by
  obtain ⟨now, run, unforgeable, memory, shown⟩ := run_mallory
  have relayed : Relayed aliceKey (misnamed aliceTerms aliceKey "styx" "mallory") :=
    relayed_misnamed _ _ _ _
  refine ⟨_, now, _, prepared_alice, ?_, run, relayed, unforgeable, shown .client, ?_, ?_⟩
  · exact fun role =>
      ⟨by cases role <;> rfl, by cases role <;> rfl, congrArg Memory.key (memory role)⟩
  · exact ⟨"styx", _, _, .tail _ (.tail _ (.tail _ (.tail _ (.head _))))⟩
  · intro name nonce tag said
    have same : name = "styx" := by
      simp [misnamed, Terms.hello, Terms.challenge] at said
      exact said.1
    simp [same]

end Parley.SharedKey
