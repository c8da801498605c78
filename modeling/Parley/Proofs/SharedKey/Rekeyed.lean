import Parley.Proofs.Keys.Locks
import Parley.Proofs.Message.Veiled
import Parley.Proofs.SharedKey.Answers

/-!
A server that goes by another key. It answers a hello the same way, with another proof at most.
-/

namespace Parley

inductive KeyLookup.Alike (key key' : SecretKey) : KeyLookup → KeyLookup → Prop
  | found : Alike key key' (.found key) (.found key')
  | missing : Alike key key' .missing .missing
  | locked (seconds : Nat) : Alike key key' (.locked seconds) (.locked seconds)

theorem Terms.veiled_clientProof (terms : Terms) (key key' : SecretKey) :
    Veiled (Message.proof (terms.clientProof key)).body
      (Message.proof (terms.clientProof key')).body := by
  refine Message.veiled_proof ?_
  rw [clientProof, clientProof, Transcript.tag, Transcript.tag, Hmac.length_tag, Hmac.length_tag]

theorem Terms.veiled_challenge (terms : Terms) (name : String) (key key' : SecretKey) :
    Veiled (terms.challenge name key).body (terms.challenge name key').body := by
  rw [challenge, challenge]
  split
  · refine Message.veiled_challenge name _ ?_
    rw [serverProof, serverProof, Transcript.tag, Transcript.tag, Hmac.length_tag, Hmac.length_tag]
  · exact .refl _

theorem Terms.name_challenge (terms : Terms) (name : String) (key key' : SecretKey) :
    (terms.challenge name key).name = (terms.challenge name key').name := by
  rw [challenge, challenge, Message.name, Message.name]

theorem Terms.encode_challenge (terms : Terms) (name : String) (key key' : SecretKey) :
    (∃ fault, (terms.challenge name key).encode = .error fault ∧
        (terms.challenge name key').encode = .error fault) ∨
      ∃ bytes bytes', (terms.challenge name key).encode = .ok bytes ∧
        (terms.challenge name key').encode = .ok bytes' := by
  rcases Message.encode_veiled (terms.name_challenge name key key')
      (terms.veiled_challenge name key key') with
    failed | ⟨bytes, bytes', encoded, encoded', _⟩
  · exact Or.inl failed
  · exact Or.inr ⟨bytes, bytes', encoded, encoded'⟩

namespace SharedKey

variable {κ : Type} [KeyStore κ]

def unkeyed (handler : SharedKey) : SharedKey := { handler with ownKey := none, key := none }

theorem lifecycle_of_unkeyed {handler other : SharedKey} (same : other.unkeyed = handler.unkeyed) :
    other.lifecycle = handler.lifecycle := by
  have lifecycles := congrArg SharedKey.lifecycle same
  exact lifecycles

def lookups (server : SharedKey) (keys : κ) (user : String) (count : Nat) : KeyLookup :=
  match server.ownKey with
  | some key => .found key
  | none => (KeyStore.lookup (KeyStore.after keys (fun _ => user) count) user).1

variable {server server' : SharedKey} {user : String} {keys keys' : κ} {nonces : NonceSupply}

theorem lookup_eq (server : SharedKey) (user : String) (supplies : Supplies κ) :
    ∃ later, server.lookup user supplies =
        (server.lookups supplies.keys user 0, ⟨supplies.nonces, later⟩) ∧
      ∀ count, server.lookups later user count = server.lookups supplies.keys user (count + 1) := by
  cases own : server.ownKey with
  | some key =>
      refine ⟨supplies.keys, ?_, fun count => ?_⟩
      · simp only [lookup, lookups, own]
      · simp only [lookups, own]
  | none =>
      refine ⟨(KeyStore.lookup supplies.keys user).2, ?_, fun count => ?_⟩
      · simp only [lookup, lookups, own, Supplies.lookup, KeyStore.after]
      · simp only [lookups, own, KeyStore.after_lookup, ite_self]

/-- Servers that find keys for a user at the same lookups, the one a key and the other another. -/
def LooksUpAlike (key key' : SecretKey) (user : String) (server server' : SharedKey)
    (keys keys' : κ) : Prop :=
  ∀ count, (server.lookups keys user count).Alike key key' (server'.lookups keys' user count)

variable {key key' : SecretKey} {terms : Terms} {supplies : Supplies κ}

theorem lookups_of_found (own : server.ownKey = none)
    (found : KeyStore.lookup keys user = (.found key, keys)) (count : Nat) :
    server.lookups keys user count = .found key := by
  have kept : KeyStore.after keys (fun _ => user) count = keys := by
    induction count with
    | zero => rfl
    | succ count ih => rw [KeyStore.after, ih, found]
  simp only [lookups, own, kept, found]

inductive Greeted (terms : Terms) (key key' : SecretKey) (server server' : SharedKey) :
    SharedKey × Supplies κ × Answer → SharedKey × Supplies κ × Answer → Prop
  | broken {last last' : SharedKey} {later later' : Supplies κ} (fault : Fault)
      (lifecycle : last.lifecycle = server.lifecycle)
      (lifecycle' : last'.lifecycle = server'.lifecycle) :
      Greeted terms key key' server server' (last, later, .error fault) (last', later', .error fault)
  | refused {reason : String} {bytes : Bytes} {later later' : Supplies κ}
      (encoded : (Message.verdict false reason).encode = .ok bytes) :
      Greeted terms key key' server server'
        ({ server with step := .done }.sending (.fail reason) bytes, later, .ok .pendingData)
        ({ server' with step := .done }.sending (.fail reason) bytes, later', .ok .pendingData)
  | challenged {bytes bytes' : Bytes} {later later' : Supplies κ} (own : Nonce)
      (encoded : ({ terms with serverNonce := own }.challenge server.serverName key).encode =
        .ok bytes)
      (encoded' : ({ terms with serverNonce := own }.challenge server'.serverName key').encode =
        .ok bytes') :
      Greeted terms key key' server server'
        ((server.challenging { terms with serverNonce := own } key).sending .await bytes, later,
          .ok .pendingData)
        ((server'.challenging { terms with serverNonce := own } key').sending .await bytes', later',
          .ok .pendingData)
  | waits {later later' : Supplies κ} (seconds : Nat) (nonces : later'.nonces = later.nonces)
      (alike : LooksUpAlike key key' terms.user server server' later.keys later'.keys) :
      Greeted terms key key' server server'
        ({ server with deferred := some terms.hello }, later, .ok (.wait seconds))
        ({ server' with deferred := some terms.hello }, later', .ok (.wait seconds))

omit [KeyStore κ] in
theorem AwaitsHello.challenge_eq (awaits : AwaitsHello terms.variant server)
    (supplies : Supplies κ) :
    server.challenge terms.user terms.clientNonce.bytes key supplies =
      match supplies.nonces.next with
      | (none, nonces) =>
        (server, ⟨nonces, supplies.keys⟩,
          .error (.transport ⟨.other, some "system randomness unavailable"⟩))
      | (some own, nonces) =>
        match ({ terms with serverNonce := own }.challenge server.serverName key).encode with
        | .error fault =>
          (server.challenging { terms with serverNonce := own } key, ⟨nonces, supplies.keys⟩,
            .error fault)
        | .ok bytes =>
          ((server.challenging { terms with serverNonce := own } key).sending .await bytes,
            ⟨nonces, supplies.keys⟩, .ok .pendingData) := by
  rw [SharedKey.challenge, Supplies.drawNonce]
  rcases supplies.nonces.next with ⟨_ | own, nonces⟩
  · rfl
  · have tagged : (if server.variant.isMutual = true then
          some ((server.transcript .server terms.clientNonce.bytes own.bytes terms.user).tag key)
        else none) = if terms.variant.isMutual = true then
          some ({ terms with serverNonce := own }.serverProof key) else none := by
      rw [awaits.variant, transcript, awaits.variant, Terms.serverProof]
    have replied := reply_eq (server.challenging { terms with serverNonce := own } key)
      ({ terms with serverNonce := own }.challenge server.serverName key) awaits.outbox .await
    simp only [SharedKey.challenging, Terms.challenge] at replied
    simp only [tagged, replied, SharedKey.challenging, Terms.challenge]
    cases Message.encode (.challenge server.serverName own.bytes _) <;> rfl

theorem greeted (awaits : AwaitsHello terms.variant server)
    (awaits' : AwaitsHello terms.variant server') (named : server'.serverName = server.serverName)
    (fits : terms.hello.body.length ≤ longestBody)
    (alike : LooksUpAlike key key' terms.user server server' keys keys') :
    Greeted terms key key' server server' (server.onMessage terms.hello ⟨nonces, keys⟩)
      (server'.onMessage terms.hello ⟨nonces, keys'⟩) := by
  by_cases unnamed : terms.user = ""
  · have refused : Replies server ⟨nonces, keys⟩ terms.hello _ _ _ _ := awaits.emptyUser unnamed
    have refused' : Replies server' ⟨nonces, keys'⟩ terms.hello _ _ _ _ :=
      awaits'.emptyUser unnamed
    obtain ⟨bytes, encoded, handled⟩ := refused
    obtain ⟨bytes', encoded', handled'⟩ := refused'
    obtain rfl := Except.ok.inj (encoded.symm.trans encoded')
    rw [handled, handled']
    exact .refused encoded
  · obtain ⟨later, looked, next⟩ := server.lookup_eq terms.user ⟨nonces, keys⟩
    obtain ⟨later', looked', next'⟩ := server'.lookup_eq terms.user ⟨nonces, keys'⟩
    have now := alike 0
    revert looked looked'
    generalize server.lookups keys terms.user 0 = answer at now
    generalize server'.lookups keys' terms.user 0 = answer' at now
    intro looked looked'
    cases now with
    | missing =>
        obtain ⟨bytes, encoded, handled⟩ := awaits.missing unnamed fits looked
        obtain ⟨bytes', encoded', handled'⟩ := awaits'.missing unnamed fits looked'
        obtain rfl := Except.ok.inj (encoded.symm.trans encoded')
        rw [handled, handled']
        exact .refused encoded
    | locked seconds =>
        rw [awaits.locked unnamed looked, awaits'.locked unnamed looked']
        refine .waits seconds rfl fun count => ?_
        rw [next, next']
        exact alike (count + 1)
    | found =>
        rw [awaits.knows unnamed looked, awaits'.knows unnamed looked', awaits.challenge_eq,
          awaits'.challenge_eq]
        dsimp only
        rcases nonces.next with ⟨_ | own, nonces⟩
        · exact .broken _ rfl rfl
        · rw [named]
          rcases Terms.encode_challenge { terms with serverNonce := own } server.serverName key key'
            with ⟨fault, failed, failed'⟩ | ⟨bytes, bytes', encoded, encoded'⟩
          · simp only [failed, failed']
            exact .broken _ rfl rfl
          · simp only [encoded, encoded']
            rw [← named] at encoded'
            exact .challenged own encoded encoded'

theorem same_answers (awaits : AwaitsHello terms.variant server)
    (awaits' : AwaitsHello terms.variant server') (named : server'.serverName = server.serverName)
    (lifecycle : server'.lifecycle = server.lifecycle)
    (fits : terms.hello.body.length ≤ longestBody)
    (alike : LooksUpAlike key key' terms.user server server' keys keys') :
    ∃ last last' later later' answer,
      server.onMessage terms.hello ⟨nonces, keys⟩ = (last, later, answer) ∧
      server'.onMessage terms.hello ⟨nonces, keys'⟩ = (last', later', answer) ∧
      answer ≠ .ok .needData ∧ last'.lifecycle = last.lifecycle := by
  have greeted : Greeted terms key key' server server'
      (server.onMessage terms.hello ⟨nonces, keys⟩)
      (server'.onMessage terms.hello ⟨nonces, keys'⟩) := greeted awaits awaits' named fits alike
  revert greeted
  generalize server.onMessage terms.hello ⟨nonces, keys⟩ = one
  generalize server'.onMessage terms.hello ⟨nonces, keys'⟩ = other
  intro greeted
  cases greeted with
  | broken fault kept kept' =>
      exact ⟨_, _, _, _, _, rfl, rfl, by simp, by rw [kept, kept', lifecycle]⟩
  | refused _ | challenged _ _ _ | waits _ _ _ =>
      exact ⟨_, _, _, _, _, rfl, rfl, by simp, lifecycle⟩

end SharedKey

end Parley
