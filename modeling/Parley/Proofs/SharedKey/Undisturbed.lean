import Parley.Proofs.Exchange.Opening
import Parley.Proofs.SharedKey.Response

/-!
Handshakes that nobody disturbs. When a side hears what an honest peer says, its deeds are those of
the handshake, and at the end both sides show their credentials.
-/

namespace Parley.SharedKey

variable {κ : Type} [KeyStore κ] {role : Role} {handler next client server : SharedKey}
  {supplies middle later : Supplies κ} {terms : Terms} {key : SecretKey} {name : String}

theorem Life.trans {start : SharedKey} {early late : List Deed} {now : Posture}
    (first : Life κ start early ⟨handler, false⟩) (second : Life κ handler late now) :
    Life κ start (early ++ late) now := by
  induction second with
  | begin =>
      rw [List.append_nil]
      exact first
  | move _ move ih =>
      rw [← List.append_assoc]
      exact ih.move move

def roomFor (bytes : Bytes) : Blob := Blob.blank bytes.length

theorem capacity_roomFor (bytes : Bytes) : bytes.length ≤ (roomFor bytes).capacity :=
  Nat.le_of_eq (Blob.capacity_blank _).symm

theorem gained_fill (bytes : Bytes) :
    (roomFor bytes).clear.gained (Outbox.fill ⟨bytes⟩ (roomFor bytes).clear).2 = bytes := by
  rw [Blob.gained, (Outbox.fill_clear bytes (roomFor bytes)).2.1,
    List.take_of_length_le (capacity_roomFor bytes)]
  rfl

theorem Engaged.life_sends (engaged : Engaged handler) (settlement : Settlement) (bytes : Bytes)
    (supplies : Supplies κ) :
    Life κ (handler.sending settlement bytes) [] ⟨handler.sent settlement, false⟩ := by
  have produced : Handler.produce (handler.sending settlement bytes) (roomFor bytes).clear supplies =
      _ := produce_rest (engaged.sending settlement bytes) rfl rfl (capacity_roomFor bytes)
  have nothing : deeds (handler.sending settlement bytes) (handler.sent settlement) supplies supplies
      [] ((roomFor bytes).clear.gained (Outbox.fill ⟨bytes⟩ (roomFor bytes).clear).2) = [] := by
    rw [gained_fill]
    exact deeds_of_kept (List.append_nil _).symm rfl (List.append_nil _)
  have life : Life κ (handler.sending settlement bytes)
      ([] ++ deeds (handler.sending settlement bytes) (handler.sent settlement) supplies supplies []
        ((roomFor bytes).clear.gained (Outbox.fill ⟨bytes⟩ (roomFor bytes).clear).2))
      ⟨handler.sent settlement, false⟩ := by
    have move := Move.produce produced
    exact Life.begin.move move
  rw [nothing] at life
  exact life

theorem Calm.life_hears (calm : Calm role handler) {heard : Message} {reply : Option Message}
    {bytes : Bytes} {mode : Mode} (encoded : heard.encode = .ok bytes)
    (handled : handler.onMessage heard supplies = (next, later, .ok mode))
    (more : mode ≠ .needData) (inbox : next.inbox = {}) (uttered : said handler next [] = reply) :
    Life κ handler ([Deed.heard heard] ++ (supplies.nonces.given later.nonces).toList.map .drew ++
      reply.toList.map .said) ⟨next, false⟩ := by
  have fits := capacity_roomFor bytes
  have read : Inbox.next ⟨bytes⟩ = .ok (some (heard, {})) := by
    rw [← List.append_nil bytes]
    exact Inbox.next_encode encoded []
  have stored : Inbox.next ⟨handler.inbox.bytes ++ bytes⟩ = .ok (some (heard, {})) := by
    rw [calm.inbox]
    exact read
  have found : (handler.receiving bytes).nextMessage = .ok (some (heard, handler)) := by
    have quiet := calm.quiet
    have empty := calm.inbox
    rcases handler
    dsimp only at quiet empty
    subst quiet empty
    simp [nextMessage, receiving, read]
  have consumed := consume_message calm.engaged (Blob.unread_load fits) found handled more
  have given : ((roomFor bytes).load bytes).given ((roomFor bytes).load bytes).taken = bytes :=
    (handler.inbox.given_absorb _).trans (Blob.unread_load fits)
  have life := Life.begin.move (.consume consumed)
  dsimp only at life
  rw [given, deeds, heard_of_next (by rw [inbox]; exact stored), uttered] at life
  exact life

theorem Calm.life_replies {heard uttered : Message} {settlement : Settlement}
    (calm : Calm role handler) (replies : Replies handler supplies heard next uttered settlement later)
    {written : Bytes} (encoded : heard.encode = .ok written) (inbox : next.inbox = {})
    (engaged : Engaged next) :
    Life κ handler ([Deed.heard heard] ++ (supplies.nonces.given later.nonces).toList.map .drew ++
      [Deed.said uttered]) ⟨next.sent settlement, false⟩ := by
  obtain ⟨bytes, encodes, handled⟩ := replies
  have queued : said handler (next.sending settlement bytes) [] = some uttered := by
    refine said_of_queued ?_ encodes
    rw [calm.outbox]
    rfl
  have hears := calm.life_hears encoded handled (by simp) inbox queued
  have life := hears.trans (engaged.life_sends settlement bytes supplies)
  rw [List.append_nil] at life
  exact life

/-! ## The steps of a handshake -/

theorem Primed.life_client (primed : Primed terms.variant .client client)
    (userEq : client.user = some terms.user)
    (drawn : supplies.drawNonce = (some terms.clientNonce, later))
    (fits : terms.hello.body.length ≤ longestBody) :
    Life κ client [.drew terms.clientNonce, .said terms.hello]
      ⟨(client.hailing terms.clientNonce.bytes).sent .await, false⟩ := by
  obtain ⟨nonces, keys⟩ := supplies
  have encoded := Message.encode_of_fits fits
  revert encoded
  generalize Bytes.word16 terms.hello.body.length ++ terms.hello.body = bytes
  intro encoded
  have hails : Engaged (client.hailing terms.clientNonce.bytes) := ⟨rfl, rfl⟩
  have drawnNow : nonces.draw (nonces.drawn + 1) = some terms.clientNonce :=
    congrArg Prod.fst drawn
  have laterEq : (⟨nonces.next.2, keys⟩ : Supplies κ) = later := congrArg Prod.snd drawn
  have produced : Handler.produce client (roomFor bytes).clear (⟨nonces, keys⟩ : Supplies κ) = _ :=
    (primed.produce_client userEq drawnNow encoded (roomFor bytes).clear).trans
      (produce_rest (hails.sending .await bytes) rfl rfl (capacity_roomFor bytes))
  rw [laterEq] at produced
  have done : deeds client ((client.hailing terms.clientNonce.bytes).sent .await) ⟨nonces, keys⟩
      later [] ((roomFor bytes).clear.gained (Outbox.fill ⟨bytes⟩ (roomFor bytes).clear).2) =
        [.drew terms.clientNonce, .said terms.hello] := by
    have unheard : heard client ((client.hailing terms.clientNonce.bytes).sent .await) [] = none :=
      heard_of_kept (List.append_nil _).symm
    have queued : said client ((client.hailing terms.clientNonce.bytes).sent .await) bytes =
        some terms.hello := by
      refine said_of_queued ?_ encoded
      rw [primed.outbox]
      exact List.append_nil _
    rw [gained_fill, deeds, unheard, given_drawNonce drawn, queued]
    rfl
  have move := Move.produce produced
  rw [← done]
  exact Life.begin.move move

theorem Primed.life_server {variant : Variant} (primed : Primed variant .server server)
    (supplies : Supplies κ) : Life κ server [] ⟨server.listening, false⟩ := by
  have produced := primed.produce_server (Blob.blank 0) supplies
  have nothing : deeds server server.listening supplies supplies []
      ((Blob.blank 0).gained (Blob.blank 0)) = [] := by
    rw [Blob.gained_self]
    exact deeds_of_kept (List.append_nil _).symm rfl rfl
  have move := Move.produce produced
  rw [← nothing]
  exact Life.begin.move move

theorem AwaitsHello.life (awaits : AwaitsHello terms.variant server) (named : terms.user ≠ "")
    (helloFits : terms.hello.body.length ≤ longestBody)
    (fits : (terms.challenge server.serverName key).body.length ≤ longestBody)
    (found : server.lookup terms.user supplies = (.found key, middle))
    (drawn : middle.drawNonce = (some terms.serverNonce, later)) :
    Life κ server [.heard terms.hello, .drew terms.serverNonce,
        .said (terms.challenge server.serverName key)]
      ⟨(server.challenging terms key).sent .await, false⟩ := by
  have given := given_drawNonce drawn
  rw [nonces_lookup found] at given
  have replies := awaits.found named found drawn fits
  have life := awaits.toCalm.life_replies replies (Message.encode_of_fits helloFits) awaits.inbox
    ⟨awaits.engaged.stage, awaits.engaged.exchange⟩
  rw [given] at life
  exact life

theorem AwaitsChallenge.life (awaits : AwaitsChallenge terms key client) (name : String)
    (fits : (terms.challenge name key).body.length ≤ longestBody) (supplies : Supplies κ) :
    Life κ client [.heard (terms.challenge name key), .said (.proof (terms.clientProof key))]
      ⟨(client.proving terms name).sent .await, false⟩ := by
  have replies : Replies client supplies (terms.challenge name key) (client.proving terms name)
      (.proof (terms.clientProof key)) .await supplies := awaits.content fun _ => rfl
  have life := awaits.toCalm.life_replies replies (Message.encode_of_fits fits) awaits.inbox
    ⟨awaits.engaged.stage, awaits.engaged.exchange⟩
  rw [given_self] at life
  exact life

theorem AwaitsProof.life (awaits : AwaitsProof terms key server) (supplies : Supplies κ) :
    ∃ last, Life κ server [.heard (.proof (terms.clientProof key)), .said (.verdict true "")]
        ⟨last, false⟩ ∧
      (face last).credential =
        some ⟨terms.user, terms.variant.protocol, terms.sessionKey key⟩ ∧
      last.memory = server.memory := by
  have replies : Replies server supplies (.proof (terms.clientProof key))
      { server with step := .done, lifecycle := server.welcoming terms.user } (.verdict true "")
      (.succeed ⟨terms.user, terms.variant.protocol, terms.sessionKey key⟩) supplies :=
    awaits.right rfl
  have engaged : Engaged { server with step := .done, lifecycle := server.welcoming terms.user } := by
    rw [welcoming]
    split <;> exact ⟨awaits.engaged.stage, awaits.engaged.exchange⟩
  have life := awaits.toCalm.life_replies replies
    (Message.encode_of_fits (terms.fits_clientProof key)) awaits.inbox engaged
  rw [given_self] at life
  exact ⟨_, life, rfl, rfl⟩

theorem AwaitsVerdict.life (awaits : AwaitsVerdict terms key name client) (supplies : Supplies κ) :
    ∃ last, Life κ client [.heard (.verdict true "")] ⟨last, false⟩ ∧
      (face last).credential = some ⟨name, terms.variant.protocol, terms.sessionKey key⟩ ∧
      last.memory = client.memory := by
  have handled : client.onMessage (.verdict true "") supplies =
      ({ client with
        step := .done
        lifecycle := client.lifecycle.succeed
          ⟨name, terms.variant.protocol, terms.sessionKey key⟩ }, supplies, .ok .success) := by
    simp [SharedKey.onMessage, awaits.role, onClientMessage, awaits.step, onAcceptance, awaits.key,
      awaits.user, awaits.peerName, SharedKey.sessionKey, transcript, awaits.variant,
      awaits.clientNonce, awaits.serverNonce, protocol, Terms.sessionKey]
  have life := awaits.toCalm.life_hears (Message.encode_of_fits Message.fits_acceptance) handled
    (by simp) awaits.inbox (said_of_kept rfl)
  rw [given_self] at life
  exact ⟨_, life, rfl, rfl⟩

end Parley.SharedKey
