import Parley.Proofs.Exchange.Agreement
import Parley.Proofs.Negotiation.Messages
import Parley.Proofs.SharedKey.Frames

/-!
The shared-key handshake between sides that drive its handlers. After the hello of the client the
server says its challenge, the client its proof and the server its verdict, and both succeed with
the session key of their terms.
-/

namespace Parley

open Conversation SharedKey

/-- What is said in a handshake after the challenge, in turns. -/
def Terms.proving (terms : Terms) (key : SecretKey) (capacity : Nat) (nonces : NonceSupply) :
    List (Bytes × NonceSupply) :=
  [((Message.proof (terms.clientProof key)).wire capacity, nonces),
    ((Message.verdict true "").wire capacity, nonces)]

/-- What is said in a handshake after the hello; all nonces have been drawn by then. -/
def Terms.turns (terms : Terms) (name : String) (key : SecretKey) (capacity : Nat)
    (nonces : NonceSupply) : List (Bytes × NonceSupply) :=
  ((terms.challenge name key).wire capacity, nonces) :: terms.proving key capacity nonces

def Terms.success (terms : Terms) (key : SecretKey) (peer : String) : Except Fault Outcome :=
  .ok (.success terms.variant.protocol ⟨peer, terms.variant.protocol, terms.sessionKey key⟩)

namespace Drive

variable {κ : Type} [KeyStore κ] {drive : Drive BuiltIn} {handler next client server : SharedKey}
  {rest : Bytes} {message said : Message} {settlement : Settlement} {call : Call} {keys : κ}
  {now later : Supplies κ} {after early nonces : NonceSupply} {time : Nat} {side : Side κ BuiltIn}
  {goal : Side κ BuiltIn → Prop} {terms : Terms} {key : SecretKey} {name : String} {role : Role}

theorem hears_of_calm (calm : Calm role handler) (room : 0 < drive.capacity)
    (fits : message.body.length ≤ longestBody)
    (obeying : drive.Obeying call (.inl handler) .needData keys side)
    (onward : ∀ side,
      Leads (Side.Acts time) (drive.Heard .inl (handler.Answers message) keys) side →
      Hears (Side.Acts time) goal rest side) :
    Hears (Side.Acts time) goal (message.wire drive.capacity ++ rest) side := by
  have encoded := Message.encode_of_fits fits
  have gathers : Gathers (ω := Supplies κ) drive.capacity _ (handler.Answers message) _ :=
    calm.engaged.gathers calm.quiet calm.inbox encoded
  rw [← receiving_nil handler] at obeying
  exact obeying.hears_message Handler.carries_inl gathers encoded room onward

theorem speaks_of_replies (room : 0 < drive.capacity) (engaged : Engaged next)
    (heard : Leads (Side.Acts time) (drive.Heard .inl (handler.Answers message) keys) side)
    (replies : Replies handler ⟨nonces, keys⟩ message next said settlement later)
    (onward : ∀ side, drive.Obeying .produce (.inl (next.sent settlement))
        (next.lifecycle.apply settlement).2 later.keys side →
      Speaks (Side.Acts time) goal after rest later.nonces side) :
    Speaks (Side.Acts time) goal after (said.wire drive.capacity ++ rest) nonces side := by
  obtain ⟨bytes, encoded, replied⟩ := replies
  have someWire :=
    List.append_ne_nil_of_left_ne_nil (Message.wire_ne_nil drive.capacity encoded) rest
  refine Leads.speaks someWire (heard.imp fun side heard => ?_)
  obtain ⟨other, quiet, blob, sized, obeys⟩ := heard.quiet_at nonces ⟨replied, by simp⟩
  refine .quiet someWire quiet (Leads.speaks someWire
    (obeys.leads_pendingData fun side calls => .here ?_))
  have sends := ((engaged.drains settlement later).sends room
    (Inbox.ne_nil_of_encode encoded)).carried (Handler.carries_inl (τ := Envelope))
  exact Calling.says encoded sends ⟨blob, sized, calls⟩ onward

theorem over_of_success {credential : Credential} {protocol : String}
    (shown : handler.lifecycle.face.credential = some credential)
    (spoken : handler.lifecycle.face.protocol = protocol)
    (obeying : drive.Obeying call (.inl handler) .success keys side) :
    Over (Side.Acts time)
      (fun last => last.result? = some (.ok (.success protocol credential))) side := by
  obtain ⟨blob, _, obeys⟩ := obeying
  subst spoken
  exact obeys.over_success shown

/-! ## The client -/

theorem over_of_acceptance (awaits : AwaitsVerdict terms key name client)
    (spoken : client.lifecycle.face.protocol = terms.variant.protocol)
    (heard : Leads (Side.Acts time)
      (drive.Heard .inl (client.Answers (.verdict true "")) keys) side) :
    Over (Side.Acts time) (fun last => last.result? = some (terms.success key name)) side := by
  refine Leads.over (heard.imp fun side heard => Leads.over (.of_each fun nonces => ?_))
  obtain ⟨last, accepted, ended⟩ := awaits.accepted (⟨nonces, keys⟩ : Supplies κ)
  have shown := congrArg (fun lifecycle : Lifecycle => lifecycle.face.credential) ended
  have worked := worked_onMessage client (.verdict true "") (⟨nonces, keys⟩ : Supplies κ)
  rw [accepted] at worked
  obtain ⟨other, quiet, obeying⟩ := heard.quiet_at nonces ⟨accepted, by simp⟩
  exact ⟨other, quiet, .here (over_of_success shown (worked.protocol.trans spoken) obeying)⟩

theorem follows_client (awaits : AwaitsChallenge terms key client)
    (spoken : client.lifecycle.face.protocol = terms.variant.protocol) (room : 0 < drive.capacity)
    (fits : (terms.challenge name key).body.length ≤ longestBody)
    (obeying : drive.Obeying call (.inl client) .needData keys side) :
    Follows (Side.Acts time) (fun last => last.result? = some (terms.success key name)) false
      (terms.turns name key drive.capacity nonces) early side := by
  rw [Terms.turns, Terms.proving, Follows,
    ← List.append_nil (Message.wire _ (terms.challenge name key))]
  refine hears_of_calm awaits.toCalm room fits obeying fun side heard => .done ?_
  have proves : Replies client (⟨nonces, keys⟩ : Supplies κ) (terms.challenge name key) _ _ _ _ :=
    awaits.content fun _ => rfl
  have awaits := awaits.proving name
  rw [Follows, ← List.append_nil (Message.wire _ (.proof _))]
  refine speaks_of_replies room ⟨awaits.engaged.stage, awaits.engaged.exchange⟩ heard proves
    fun side obeying => .done ?_
  rw [Follows, ← List.append_nil (Message.wire _ _)]
  exact hears_of_calm awaits.toCalm room Message.fits_acceptance obeying fun side heard =>
    .done (over_of_acceptance awaits spoken heard)

theorem speaks_client (primed : Primed terms.variant .client client)
    (keyEq : client.key = some key) (userEq : client.user = some terms.user)
    (spoken : client.lifecycle.face.protocol = terms.variant.protocol) (room : 0 < drive.capacity)
    (drawn : early.draw (early.drawn + 1) = some terms.clientNonce)
    (helloFits : terms.hello.body.length ≤ longestBody)
    (challengeFits : (terms.challenge name key).body.length ≤ longestBody)
    (calling : drive.Calling (.inl client) keys side) :
    Speaks (Side.Acts time)
      (Follows (Side.Acts time) (fun last => last.result? = some (terms.success key name)) false
        (terms.turns name key drive.capacity nonces) early.next.2)
      early.next.2 (terms.hello.wire drive.capacity) early side := by
  have encoded := Message.encode_of_fits helloFits
  have hailing := primed.hailing keyEq userEq
  have awaits : AwaitsChallenge terms key
      ((client.hailing terms.clientNonce.bytes).sent .await) :=
    ⟨hailing.toCalm.sent, hailing.variant, rfl, keyEq, userEq, rfl⟩
  have sends := ((hailing.engaged.drains .await (⟨early.next.2, keys⟩ : Supplies κ)).sends room
    (Inbox.ne_nil_of_encode encoded)).of_same
      fun blob => primed.produce_client userEq drawn encoded blob.clear
  rw [← List.append_nil (Message.wire _ terms.hello)]
  exact Calling.says encoded (sends.carried (Handler.carries_inl (τ := Envelope))) calling
    fun side obeying => .done (follows_client awaits spoken room challengeFits obeying)

/-! ## The server -/

theorem follows_server (awaits : AwaitsProof terms key server)
    (spoken : server.lifecycle.face.protocol = terms.variant.protocol) (room : 0 < drive.capacity)
    (obeying : drive.Obeying call (.inl server) .needData keys side) :
    Follows (Side.Acts time) (fun last => last.result? = some (terms.success key terms.user)) false
      (terms.proving key drive.capacity nonces) early side := by
  rw [Terms.proving, Follows, ← List.append_nil (Message.wire _ (.proof _))]
  refine hears_of_calm awaits.toCalm room (terms.fits_clientProof key) obeying
    fun side heard => .done ?_
  have accepts : Replies server (⟨nonces, keys⟩ : Supplies κ)
      (.proof (terms.clientProof key)) _ _ _ _ := awaits.right rfl
  rw [Follows, ← List.append_nil (Message.wire _ (.verdict _ _))]
  refine speaks_of_replies room (engaged_welcoming awaits.engaged _ _) heard accepts
    fun side obeying => .done (over_of_success rfl ?_ obeying)
  exact (worked_welcoming server terms.user).protocol.trans spoken

theorem hears_server (primed : Primed terms.variant .server server)
    (serves : server.serverName = name)
    (spoken : server.lifecycle.face.protocol = terms.variant.protocol) (room : 0 < drive.capacity)
    (named : terms.user ≠ "") (found : (server.lookup terms.user now).1 = .found key)
    (drawn : now.nonces.draw (now.nonces.drawn + 1) = some terms.serverNonce)
    (helloFits : terms.hello.body.length ≤ longestBody)
    (challengeFits : (terms.challenge name key).body.length ≤ longestBody)
    (calling : drive.Calling (.inl server) now.keys side) :
    Hears (Side.Acts time)
      (Follows (Side.Acts time) (fun last => last.result? = some (terms.success key terms.user))
        true (terms.turns name key drive.capacity now.nonces.next.2) now.nonces)
      (terms.hello.wire drive.capacity) side := by
  subst serves
  have listening := primed.listening
  have waits (blob : Blob) (now : Supplies κ) : Handler.produce (.inl server : BuiltIn) blob now =
      ⟨.ok .needData, .inl server.listening, blob, now⟩ :=
    congrArg (Handler.mapTurn Sum.inl) (primed.produce_server blob now)
  rcases looked : server.lookup terms.user now with ⟨answer, middle⟩
  obtain rfl : answer = .found key := by rwa [looked] at found
  have drawn : middle.drawNonce = (some terms.serverNonce, ⟨now.nonces.next.2, middle.keys⟩) := by
    simp [Supplies.drawNonce, NonceSupply.next, nonces_lookup looked, drawn]
  have challenges : Replies server.listening now terms.hello _ _ _ _ :=
    listening.found named looked drawn challengeFits
  have awaits := listening.challenging key
  have someHello := Message.wire_ne_nil_of_fits drive.capacity helloFits
  refine Leads.hears someHello ((calling.leads_waiting waits).imp fun side obeying => ?_)
  rw [← List.append_nil (Message.wire _ terms.hello)]
  refine hears_of_calm listening.toCalm room helloFits obeying fun side heard => .done ?_
  rw [Terms.turns, Follows, ← List.append_nil (Message.wire _ (terms.challenge _ key))]
  exact speaks_of_replies room ⟨awaits.engaged.stage, awaits.engaged.exchange⟩ heard challenges
    fun side obeying => .done (follows_server awaits spoken room obeying)

end Drive

end Parley
