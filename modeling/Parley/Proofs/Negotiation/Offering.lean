import Parley.Proofs.Envelope.Calls
import Parley.Proofs.Envelope.Offers
import Parley.Proofs.Negotiation.Departures

/-!
Offers and choices between sides that drive envelopes. The server says its offer; the client says
its choice and goes on at once with what the successor has to say, and the server hears both in one
turn.
-/

namespace Parley.Drive

open Conversation Envelope

variable {κ : Type} [KeyStore κ] {drive : Drive BuiltIn} {client server : Envelope}
  {bound : SharedKey} {offered : List String} {variant : Variant} {identity : Option Identity}
  {rest : Bytes} {call : Call} {keys kept : κ} {after nonces : NonceSupply} {time : Nat}
  {side : Side κ BuiltIn} {goal : Side κ BuiltIn → Prop}

theorem Calling.hears_offer (primed : Primed .client client)
    (named : client.lifecycle.face.protocol = Envelope.protocol)
    (bears : client.lifecycle.identity = identity)
    (chosen : agreed client.protocols offered = some variant.protocol)
    (fits : (Message.offer offered).body.length ≤ longestBody) (room : 0 < drive.capacity)
    (enveloped : drive.Enveloped) (someRest : rest ≠ [])
    (began : ∀ nonces, (SharedKey.fresh variant).init
      (identity.map fun identity => identity.rescoped variant.protocol) .client
        (⟨nonces, keys⟩ : Supplies κ) = ⟨true, bound, ⟨nonces, kept⟩⟩)
    (calling : drive.Calling (.inr client) keys side)
    (onward : ∀ (next : Drive BuiltIn) (side : Side κ BuiltIn), next.capacity = drive.capacity →
      next.Calling (.inl bound) kept side →
      Speaks (Side.Acts time) goal after rest nonces side) :
    Hears (Side.Acts time)
      (Speaks (Side.Acts time) goal after
        ((Message.choice variant.protocol).wire drive.capacity ++ rest) nonces)
      ((Message.offer offered).wire drive.capacity) side := by
  have offers := Message.encode_of_fits fits
  obtain ⟨bytes, settlement, chooses, answers, settled⟩ := primed.answers_offer fits
  rw [chosen, Option.getD_some] at chooses
  have waits (blob : Blob) (now : Supplies κ) : Handler.produce (.inr client : BuiltIn) blob now =
      ⟨.ok .needData, .inr client.opened, blob, now⟩ :=
    congrArg (Handler.mapTurn Sum.inr) primed.produce_client
  have someChoice := List.append_ne_nil_of_left_ne_nil
    (Message.wire_ne_nil drive.capacity chooses) rest
  refine Leads.hears (Message.wire_ne_nil_of_fits _ fits)
    ((calling.leads_waiting waits).imp fun side obeying => ?_)
  rw [← receiving_nil client.opened] at obeying
  rw [← List.append_nil (Message.wire _ (.offer offered))]
  refine obeying.hears_message Handler.carries_inr
    ((engaged_opened client).gathers primed.inbox offers) offers room fun side heard => .done ?_
  refine Leads.speaks someChoice (heard.imp fun side heard => ?_)
  obtain ⟨other, quiet, blob, sized, obeys⟩ := heard.quiet_at nonces ⟨answers, rfl⟩
  refine .quiet someChoice quiet (Leads.speaks someChoice
    (obeys.leads_pendingData fun side calls => .here ?_))
  have sends := (((engaged_opened client).drains settlement
    (⟨nonces, keys⟩ : Supplies κ)).sends room
      (Inbox.ne_nil_of_encode chooses)).carried (Handler.carries_inr (σ := SharedKey))
  refine Calling.says chooses sends ⟨blob, sized, calls⟩ fun side obeying => ?_
  obtain ⟨mode, shown⟩ := settled client.opened.lifecycle
  rw [chosen] at mode shown
  rw [mode] at obeying
  have delegates : (client.opened.sent settlement).Delegates variant identity .client := by
    have worked : Lifecycle.Worked client.opened.lifecycle _ _ := Lifecycle.worked_apply settlement
    exact ⟨worked.protocol.trans named, shown _ rfl, (identity_apply _ _).trans bears,
      worked.role.trans primed.role⟩
  exact Leads.speaks someRest (obeying.leads_follow delegates enveloped began
    fun next side same calling => .here (onward next side same calling))

/-- A server says its offer, and hears a choice and what is said to the successor in one turn. -/
theorem Calling.speaks_offer (primed : Primed .server server)
    (named : server.lifecycle.face.protocol = Envelope.protocol)
    (bears : server.lifecycle.identity = identity) {protocols : List String}
    (chosen : agreed protocols server.protocols = some variant.protocol)
    (fits : (Message.offer server.protocols).body.length ≤ longestBody) (room : 0 < drive.capacity)
    (enveloped : drive.Enveloped) (someRest : rest ≠ [])
    (began : ∀ nonces, (SharedKey.fresh variant).init
      (identity.map fun identity => identity.rescoped variant.protocol) .server
        (⟨nonces, keys⟩ : Supplies κ) = ⟨true, bound, ⟨nonces, kept⟩⟩)
    (calling : drive.Calling (.inr server) keys side)
    (onward : ∀ (next : Drive BuiltIn) (side : Side κ BuiltIn), next.capacity = drive.capacity →
      next.Calling (.inl bound) kept side → Hears (Side.Acts time) goal rest side) :
    Speaks (Side.Acts time)
      (Hears (Side.Acts time) goal ((Message.choice variant.protocol).wire drive.capacity ++ rest))
      nonces ((Message.offer server.protocols).wire drive.capacity) nonces side := by
  have offers := Message.encode_of_fits fits
  have chooses := Message.encode_of_fits
    (Message.fits_choice fits (Or.inl (agreed_mem chosen).2))
  obtain ⟨last, answers, shown⟩ := primed.answers_choice protocols
  have sameIdentity :=
    identity_onMessage (server.opened.sent .await) (.choice variant.protocol)
  have worked := worked_onMessage (server.opened.sent .await) (.choice variant.protocol)
  rw [chosen, Option.getD_some] at answers
  rw [answers] at worked sameIdentity
  have awaiting : Engaged (server.opened.sent .await) := ⟨rfl, rfl⟩
  have delegates : last.Delegates variant identity .server :=
    ⟨worked.protocol.trans named, shown _ chosen, sameIdentity.trans bears,
      worked.role.trans primed.role⟩
  have sends := ((engaged_opened server).drains .await (⟨nonces, keys⟩ : Supplies κ)).sends room
    (Inbox.ne_nil_of_encode offers)
  have sends := (sends.of_same fun blob => primed.produce_server offers).carried
    (Handler.carries_inr (σ := SharedKey))
  rw [← List.append_nil (Message.wire _ (.offer server.protocols))]
  refine calling.says offers sends fun side obeying => .done ?_
  rw [← receiving_nil (server.opened.sent .await)] at obeying
  refine obeying.hears_message Handler.carries_inr (awaiting.gathers primed.inbox chooses) chooses
    room fun side heard => Leads.hears someRest (heard.imp fun side heard =>
      Leads.hears someRest (.of_each fun nonces => ?_))
  obtain ⟨other, quiet, obeying⟩ := heard.quiet_at nonces ⟨answers, rfl⟩
  exact ⟨other, quiet, obeying.leads_follow delegates enveloped began
    fun next side same calling => .here (onward next side same calling)⟩

end Parley.Drive
