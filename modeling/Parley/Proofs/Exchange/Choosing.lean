import Parley.Proofs.Envelope.Offers
import Parley.Proofs.Exchange.Parties

/-!
Agreement of envelopes. Whatever the sizes of the blobs and however the calls are ordered, a client
and a server delegate to one protocol, the first of the client's that the server offers, or else
both fail.
-/

namespace Parley.Exchange

open Conversation Envelope Party

variable {κ : Type} {capacity : Nat} {nonces : NonceSupply} {client server handler last : Envelope}
  {clientKeys serverKeys keys : κ} {choice : Option String} {party : Party κ Envelope}

def between {σ : Type} (capacity : Nat) (nonces : NonceSupply) (client server : σ)
    (clientKeys serverKeys : κ) : Exchange κ σ where
  client := { handler := client, keys := clientKeys, blob := Blob.blank capacity }
  server := { handler := server, keys := serverKeys, blob := Blob.blank capacity }
  nonces := nonces

structure Chosen (choice : Option String) (party : Party κ Envelope) : Prop where
  outcome : party.outcome = some (.ok (ending choice))
  shows : Shows choice party.handler.lifecycle

theorem over_chosen {next : NextCall} (shows : Shows choice last.lifecycle)
    (stands : Stands capacity last keys (react next (.ok (ending choice))).1
      (react next (.ok (ending choice))).2 party) : Over Acts (Chosen choice) party := by
  have ended : react next (.ok (ending choice)) = (next, some (.ok (ending choice))) := by
    cases choice <;> rfl
  rw [ended] at stands
  refine .rests (fun _ _ _ _ acts => ?_) ⟨stands.outcome, by rwa [stands.handler]⟩
  cases acts with
  | quiet called _ | send called _ | receive _ called =>
      rw [stands.call_ended] at called
      cases called

theorem quiet_client (primed : Primed .client client)
    (stands : Stands capacity client keys .produce none party) :
    ∃ waiting, Quiet Acts party (fun _ => waiting) ∧
      Stands capacity client.opened keys .receive none waiting := by
  have next := stands.next
  have called (nonces : NonceSupply) := stands.call_produce nonces []
  have silent (blob : Blob) (supplies : Supplies κ) :
      Party.sending (⟨.ok .needData, client.opened, blob.clear, supplies⟩ :
        Turn (Supplies κ) Envelope) = none := rfl
  simp only [primed.produce_client, silent] at called
  refine ⟨⟨client.opened, keys, party.blob.clear, .receive, none⟩,
    fun shared act after later => ⟨fun acts => ?_, ?_⟩, ?_⟩
  · cases acts with
    | quiet other _ =>
        cases (called shared).symm.trans other
        exact ⟨rfl, rfl, rfl⟩
    | send other sent =>
        cases (called shared).symm.trans other
        cases sent
    | receive waits _ =>
        rw [next] at waits
        cases waits
  · rintro ⟨rfl, rfl, rfl⟩
    have acts := Party.Acts.quiet (called later) rfl
    exact acts
  · exact ⟨rfl, rfl, rfl, rfl, (Blob.capacity_clear _).trans stands.capacity⟩

theorem settles_between (clientPrimed : Primed .client client)
    (serverPrimed : Primed .server server) (room : 0 < capacity)
    (fits : (Message.offer server.protocols).body.length ≤ longestBody) :
    Settles (fun last => ∀ side,
        Chosen (agreed client.protocols server.protocols) (last.party side))
      (between capacity nonces client server clientKeys serverKeys) := by
  have offered := Message.encode_of_fits fits
  obtain ⟨bytes, settlement, chosen, answers, settled⟩ := clientPrimed.answers_offer fits
  obtain ⟨last, ended, shows⟩ := serverPrimed.answers_choice client.protocols
  have awaiting : Engaged (server.opened.sent .await) := ⟨rfl, rfl⟩
  have serverSends :=
    ((engaged_opened server).drains .await (⟨nonces, serverKeys⟩ : Supplies κ)).sends room
      (Inbox.ne_nil_of_encode offered)
  have offersEq := Bytes.flatten_frames capacity
    (Bytes.word16 (Message.offer server.protocols).body.length ++
      (Message.offer server.protocols).body)
  generalize Bytes.frames capacity _ = offers at serverSends offersEq
  have clientSends :=
    ((engaged_opened client).drains settlement (⟨nonces, clientKeys⟩ : Supplies κ)).sends room
      (Inbox.ne_nil_of_encode chosen)
  have choosesEq := Bytes.flatten_frames capacity bytes
  generalize Bytes.frames capacity bytes = chooses at clientSends choosesEq
  obtain ⟨parts, final, middle, offersSplit, clientTakes, clientAnswers⟩ :=
    ((engaged_opened client).gathers clientPrimed.inbox offered).takes [] serverSends.fits
      serverSends.some_frames offersEq.symm
  obtain ⟨others, decisive, expecting, choosesSplit, serverTakes, serverAnswers⟩ :=
    (awaiting.gathers serverPrimed.inbox chosen).takes [] clientSends.fits
      clientSends.some_frames choosesEq.symm
  rw [receiving_nil] at clientTakes serverTakes
  have serverFollows : Follows Acts (Chosen (agreed client.protocols server.protocols)) true
      [(offers, nonces), (chooses, nonces)] nonces
      (between capacity nonces client server clientKeys serverKeys).server := by
    refine speaks_of_sends (serverSends.of_same fun blob => serverPrimed.produce_server offered)
      ⟨rfl, rfl, rfl, rfl, Blob.capacity_blank capacity⟩ fun party stands => ?_
    rw [Follows, choosesSplit]
    exact hears_of_takes serverTakes (fun nonces => serverAnswers ⟨ended, rfl⟩) stands
      fun party stands => over_chosen shows stands
  have clientFollows : Follows Acts (Chosen (agreed client.protocols server.protocols)) false
      [(offers, nonces), (chooses, nonces)] nonces
      (between capacity nonces client server clientKeys serverKeys).client := by
    have began : Stands capacity client clientKeys .produce none
        (between capacity nonces client server clientKeys serverKeys).client :=
      ⟨rfl, rfl, rfl, rfl, Blob.capacity_blank capacity⟩
    obtain ⟨waiting, quiet, stands⟩ := quiet_client clientPrimed began
    refine .quiet serverSends.some_frames quiet fun _ => ?_
    rw [offersSplit]
    refine hears_of_takes clientTakes (fun nonces => clientAnswers ⟨answers, rfl⟩) stands
      fun party stands => ?_
    refine speaks_of_sends clientSends stands fun party stands => ?_
    obtain ⟨mode, shown⟩ := settled client.opened.lifecycle
    rw [mode] at stands
    exact over_chosen shown stands
  have someSaid : ∀ turn ∈ [(offers, nonces), (chooses, nonces)], turn.1 ≠ [] := by
    simp [serverSends.some_frames, clientSends.some_frames]
  have settles : Conversation.Settles (Move Acts fun _ => True) _
      ((between capacity nonces client server clientKeys serverKeys).link .server) :=
    settles_follows (fun _ => trivial) someSaid serverFollows clientFollows
  refine (settles_of_link settles).imp fun last ended side => ?_
  cases side with
  | client => exact ended.other
  | server => exact ended.one

/--
However the calls of two envelopes are ordered, whatever the size of their blobs, they come to an
end. If one of the client's protocols is offered, both delegate to the first such one; if none is,
both fail.
-/
theorem envelope_agreement {clientNames serverNames : List String}
    {clientBegan clientReady serverBegan serverReady : Supplies κ}
    (clientPrepared : Prepares (fresh clientNames) clientBegan client clientReady)
    (clientBound : client.lifecycle.stage = .bound)
    (clientRole : client.lifecycle.role = some .client)
    (serverPrepared : Prepares (fresh serverNames) serverBegan server serverReady)
    (serverBound : server.lifecycle.stage = .bound)
    (serverRole : server.lifecycle.role = some .server) (room : 0 < capacity)
    (fits : (Message.offer server.protocols).body.length ≤ longestBody) :
    (¬ ∃ run : Nat → Exchange κ Envelope,
      run 0 = between capacity nonces client server clientKeys serverKeys ∧
      ∀ count, ∃ side entry, (run count).call side = some (entry, run (count + 1))) ∧
    ∀ last, Reaches (between capacity nonces client server clientKeys serverKeys) last →
      (∀ side, last.call side = none) →
      match client.protocols.find? (fun name => server.protocols.contains name) with
      | some name => ∀ side, (last.party side).outcome = some (.ok .delegated) ∧
          (face (last.party side).handler).info = some name
      | none => ∀ side, (last.party side).outcome = some (.ok .failed) := by
  have settles : Settles _ (between capacity nonces client server clientKeys serverKeys) :=
    settles_between ⟨unused_prepares clientPrepared, clientBound, clientRole⟩
      ⟨unused_prepares serverPrepared, serverBound, serverRole⟩ room fits
  refine ⟨settles.no_infinite_run, fun last reaches stuck => ?_⟩
  have chosen := settles.of_stuck reaches stuck
  rw [agreed] at chosen
  split
  · rename_i name found
    rw [found] at chosen
    exact fun side => ⟨(chosen side).outcome, (chosen side).shows name rfl⟩
  · rename_i missing
    rw [missing] at chosen
    exact fun side => (chosen side).outcome

def noKeys : Supplies MemoryKeys := ⟨.counting, {}⟩

def chooser : Initialised (Supplies MemoryKeys) Envelope :=
  Handler.init (fresh ["p9sk2", "p9any", "p9sk1"]) (some ⟨"alice", "p9any"⟩) .client noKeys

def offerer : Initialised (Supplies MemoryKeys) Envelope :=
  Handler.init (fresh ["p9sk1", " p9sk2 "]) none .server noKeys

theorem envelope_agreement_p9sk2 :
    (chooser.accepted = true ∧ offerer.accepted = true) ∧
      ∀ last, Reaches (between 1 .counting chooser.handler offerer.handler noKeys.keys
          noKeys.keys) last → (∀ side, last.call side = none) →
        ∀ side, (last.party side).outcome = some (.ok .delegated) ∧
          (face (last.party side).handler).info = some "p9sk2" := by
  have prefers : chooser.handler.protocols = ["p9sk2", "p9sk1"] := by decide +kernel
  have offers : offerer.handler.protocols = ["p9sk1", "p9sk2"] := by decide +kernel
  have fits : (Message.offer offerer.handler.protocols).body.length ≤ longestBody := by
    decide +kernel
  have clientPrepared : Prepares (fresh ["p9sk2", "p9any", "p9sk1"]) noKeys chooser.handler
      chooser.surroundings := .initialises .begin (.live _ _)
  have serverPrepared : Prepares (fresh ["p9sk1", " p9sk2 "]) noKeys offerer.handler
      offerer.surroundings := .initialises .begin (.live _ _)
  refine ⟨by decide +kernel, fun last reaches stuck => ?_⟩
  have agreement := (envelope_agreement clientPrepared rfl rfl serverPrepared rfl rfl Nat.one_pos
    fits).2 last reaches stuck
  rw [prefers, offers] at agreement
  exact agreement

end Parley.Exchange
