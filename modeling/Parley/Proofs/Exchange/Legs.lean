import Parley.Proofs.Exchange.Conveying
import Parley.Proofs.SharedKey.Answers

/-!
Legs of a handshake that follow each other. A side that has heard a message answers it, at once or
after waiting, and the answer is the message of the next leg; the last leg ends both sides.
-/

namespace Parley.Exchange

open SharedKey Party

variable {κ : Type} [KeyStore κ] {kind : Exchange κ SharedKey → Prop}
  {exchange : Exchange κ SharedKey} {side : Role} {role : Role} {capacity : Nat}
  {nonces : NonceSupply} {handler peer : SharedKey} {keys peerKeys : κ} {next : NextCall}
  {leg : Leg κ} {bytes : Bytes} {size : Nat} {last : SharedKey} {later : Supplies κ} {mode : Mode}

structure Ended (mode : Mode) (credential : Role → Option Credential)
    (exchange : Exchange κ SharedKey) : Prop where
  outcome (side : Role) : (exchange.party side).outcome = some (.ok mode)
  credential (side : Role) : (face (exchange.party side).handler).credential = credential side

structure Facing (side : Role) (capacity : Nat) (nonces : NonceSupply) (handler : SharedKey)
    (keys : κ) (next : NextCall) (peer : SharedKey) (peerKeys : κ)
    (exchange : Exchange κ SharedKey) : Prop where
  party : Stands capacity handler keys next none (exchange.party side)
  peer : Stands capacity peer peerKeys .receive none (exchange.party side.peer)
  nonces : exchange.nonces = nonces
  back : exchange.frames side = []
  forth : exchange.frames side.peer = []

theorem Facing.settles (facing : Facing side capacity nonces handler keys next peer peerKeys exchange)
    {turn : PartyTurn κ SharedKey}
    (called : (exchange.party side).call exchange.nonces (exchange.frames side) = some turn)
    (settles : Settles kind (exchange.place turn side)) : Settles kind exchange := by
  refine settles_of_parties side (fun turn' called' => ?_) (fun turn' called' => ?_)
    fun stuck _ => ?_
  · obtain rfl := Option.some.inj (called.symm.trans called')
    exact settles
  · rw [facing.forth, facing.peer.call_waiting] at called'
    cases called'
  · rw [called] at stuck
    cases stuck

namespace Leg

def Begins (leg : Leg κ) (exchange : Exchange κ SharedKey) : Prop :=
  ∃ bytes, leg.message.encode = .ok bytes ∧
    Facing leg.side leg.capacity leg.nonces (leg.sender.sending leg.settlement bytes)
      leg.senderKeys .produce leg.receiver leg.receiverKeys exchange

def answer (leg : Leg κ) (later : Supplies κ) (next : SharedKey) (said : Message)
    (settlement : Settlement) : Leg κ where
  side := leg.side.peer
  message := said
  capacity := leg.capacity
  nonces := later.nonces
  sender := next
  settlement := settlement
  senderKeys := later.keys
  receiver := leg.sender.sent .await
  receiverKeys := leg.senderKeys

omit [KeyStore κ] in
theorem steady_of_calm (leg : Leg κ) (sends : Engaged leg.sender)
    (receives : Calm role leg.receiver) : leg.Steady :=
  ⟨sends, receives.engaged, receives.quiet, receives.inbox⟩

omit [KeyStore κ] in
theorem sound_of_calm (leg : Leg κ) (room : 0 < leg.capacity) (sends : Engaged leg.sender)
    (receives : Calm role leg.receiver) : leg.Sound :=
  ⟨room, sends, receives.engaged, receives.quiet, receives.inbox⟩

theorem Begins.conveys (begins : leg.Begins exchange) :
    ∃ bytes, leg.message.encode = .ok bytes ∧ leg.Conveys bytes [] bytes 0 exchange ∧
      exchange.frames leg.side.peer = [] := by
  obtain ⟨bytes, encoded, party, peer, nonces, back, forth⟩ := begins
  have someBytes := Inbox.ne_nil_of_encode encoded
  refine ⟨bytes, encoded, ⟨.sending someBytes party, .ready ?_, nonces, back, encoded, ?_, ?_, ?_⟩,
    forth⟩
  · rwa [receiving_nil]
  · simp [forth]
  · simp [forth, someBytes]
  · simp [forth]

theorem Begins.underway (begins : leg.Begins exchange) :
    ∃ bytes size, leg.Underway bytes size exchange := by
  obtain ⟨bytes, _, conveys, _⟩ := begins.conveys
  exact ⟨bytes, _, [], bytes, 0, conveys, rfl⟩

omit [KeyStore κ] in
theorem Heard.facing {called : NextCall} (heard : leg.Heard called last later (.ok mode) exchange)
    (await : leg.settlement = .await) (goes : react called (.ok mode) = (next, none)) :
    Facing leg.side.peer leg.capacity later.nonces last later.keys next (leg.sender.sent .await)
      leg.senderKeys exchange := by
  obtain ⟨sender, receiver, _, nonces, back, forth⟩ := heard
  rw [goes] at receiver
  refine ⟨receiver, ?_, nonces, forth, ?_⟩
  · rw [Role.peer_peer]
    rw [await] at sender
    cases sender with
    | sending someLeft _ => exact absurd rfl someLeft
    | sent stands => exact stands
  · rwa [Role.peer_peer]

omit [KeyStore κ] in
theorem Arrived.facing (arrived : leg.Arrived last later mode exchange)
    (await : leg.settlement = .await) (goes : react .receive (.ok mode) = (next, none)) :
    Facing leg.side.peer leg.capacity later.nonces last later.keys next (leg.sender.sent .await)
      leg.senderKeys exchange :=
  Heard.facing ⟨arrived.sender, arrived.receiver, arrived.unread, arrived.nonces, arrived.back,
    arrived.forth⟩ await goes

end Leg

/-- A handler answers a message in the end, though it may have to wait first. -/
inductive Comes (handler : SharedKey) (heard : Message) (next : SharedKey) (said : Message)
    (settlement : Settlement) (after : NonceSupply) : Supplies κ → Prop
  | replies {supplies later : Supplies κ}
      (replies : Replies handler supplies heard next said settlement later)
      (nonces : later.nonces = after) :
      Comes handler heard next said settlement after supplies
  | waits {supplies later : Supplies κ} {seconds : Nat}
      (waits : handler.onMessage heard supplies =
        ({ handler with deferred := some heard }, later, .ok (.wait seconds)))
      (comes : Comes handler heard next said settlement after later) :
      Comes handler heard next said settlement after supplies

variable {answering : SharedKey} {heard said : Message} {settlement : Settlement}
  {after : NonceSupply} {supplies : Supplies κ}

theorem call_deferred (calm : Calm role handler)
    (facing : Facing side capacity nonces { handler with deferred := some heard } keys .consume peer
      peerKeys exchange)
    (unread : (exchange.party side).blob.contents.drop (exchange.party side).blob.position = [])
    {answer : Answer} (handled : handler.onMessage heard ⟨nonces, keys⟩ = (last, later, answer))
    (more : answer ≠ .ok .needData) :
    (exchange.party side).call exchange.nonces (exchange.frames side) =
      some ((exchange.party side).after
        ⟨answer, last.settle answer, (exchange.party side).blob.taken, later⟩ [] none) := by
  have found : ({ handler with deferred := some heard }.receiving []).nextMessage =
      .ok (some (heard, handler)) := by
    have same : { handler with deferred := none } = handler := by rw [← calm.quiet]
    rw [receiving_nil]
    simp [nextMessage, same]
  have engaged : Engaged { handler with deferred := some heard } :=
    ⟨calm.engaged.stage, calm.engaged.exchange⟩
  rw [facing.nonces, facing.back, facing.party.call_consume nonces,
    consume_answer engaged unread found handled more]

theorem settles_waiting (calm : Calm role handler)
    (comes : Comes handler heard answering said settlement after supplies)
    (facing : Facing side capacity supplies.nonces { handler with deferred := some heard }
      supplies.keys .consume peer peerKeys exchange)
    (unread : (exchange.party side).blob.contents.drop (exchange.party side).blob.position = [])
    (goesOn : ∀ keys exchange,
      Leg.Begins ⟨side, said, capacity, after, answering, settlement, keys, peer, peerKeys⟩
        exchange → Settles kind exchange) : Settles kind exchange := by
  induction comes generalizing exchange with
  | @replies supplies later replies nonces =>
      obtain ⟨bytes, encoded, handled⟩ := replies
      have called := call_deferred calm facing unread handled (by simp)
      have next := facing.party.next
      refine facing.settles called (goesOn later.keys _ ⟨bytes, encoded, ?_, ?_, ?_, ?_, ?_⟩)
      · rw [party_place]
        exact ⟨rfl, rfl, rfl, rfl, facing.party.capacity⟩
      · rw [party_place_peer]
        exact facing.peer
      · rw [nonces_place]
        exact nonces
      · rw [frames_place]
        rfl
      · rw [frames_place_peer, sent_after, facing.forth]
        rfl
  | @waits supplies later seconds waits comes ih =>
      have called := call_deferred calm facing unread waits (by simp)
      have next := facing.party.next
      refine facing.settles called (ih ⟨?_, ?_, ?_, ?_, ?_⟩ ?_)
      · rw [party_place]
        refine ⟨rfl, rfl, ?_, ?_, facing.party.capacity⟩
        · simp [Party.after, react, next]
        · simp [Party.after, react, next]
      · rw [party_place_peer]
        exact facing.peer
      · rw [nonces_place]
        rfl
      · rw [frames_place]
        rfl
      · rw [frames_place_peer, sent_after, facing.forth]
        rfl
      · rw [party_place]
        exact Blob.unread_taken _

namespace Leg

theorem Underway.answered (underway : leg.Underway bytes size exchange) (sound : leg.Sound)
    (receives : Calm role leg.receiver) (await : leg.settlement = .await)
    (comes : Comes leg.receiver leg.message answering said settlement after
      ⟨leg.nonces, leg.receiverKeys⟩)
    (goesOn : ∀ keys exchange,
      (leg.answer ⟨after, keys⟩ answering said settlement).Begins exchange →
      Settles kind exchange) : Settles kind exchange := by
  cases comes with
  | @replies _ later replies nonces =>
      obtain ⟨bytes, encoded, handled⟩ := replies
      refine underway.settles sound handled (by simp) fun exchange arrived => ?_
      refine goesOn later.keys exchange ⟨bytes, encoded, ?_⟩
      rw [← nonces]
      exact arrived.facing await rfl
  | @waits _ later seconds waits comes =>
      refine underway.settles sound waits (by simp) fun exchange arrived => ?_
      exact settles_waiting receives comes (arrived.facing await rfl) arrived.unread goesOn

theorem Underway.ended {credential : Role → Option Credential}
    (underway : leg.Underway bytes size exchange) (sound : leg.Sound)
    (handled : leg.receiver.onMessage leg.message ⟨leg.nonces, leg.receiverKeys⟩ =
      (last, later, .ok mode)) (ends : mode = .success ∨ mode = .failed)
    (settled : (leg.sender.lifecycle.apply leg.settlement).2 = mode)
    (own : (leg.sender.lifecycle.apply leg.settlement).1.face.credential = credential leg.side)
    (other : last.lifecycle.face.credential = credential leg.side.peer) :
    Settles (Ended mode credential) exchange := by
  have more : mode ≠ .needData := by rcases ends with rfl | rfl <;> simp
  have stops (next : NextCall) : (react next (.ok mode)).2 = some (.ok mode) := by
    rcases ends with rfl | rfl <;> rfl
  refine underway.settles sound handled more fun exchange arrived => ?_
  obtain ⟨sender, receiver, _, _, _, _⟩ := arrived
  have stood : Stands leg.capacity (leg.sender.sent leg.settlement) leg.senderKeys
      (react .produce (.ok mode)).1 (some (.ok mode)) (exchange.party leg.side) := by
    cases sender with
    | sending someLeft _ => exact absurd rfl someLeft
    | sent stands => rwa [settled, stops] at stands
  rw [stops] at receiver
  have both (goal : Role → Prop) (here : goal leg.side) (there : goal leg.side.peer) (any : Role) :
      goal any := by
    cases sideEq : leg.side <;> cases any <;> simp_all [Role.peer]
  refine settles_of_parties leg.side (fun turn called => ?_) (fun turn called => ?_)
    fun _ _ => ⟨both _ stood.outcome receiver.outcome, both _ ?_ ?_⟩
  · rw [stood.call_ended] at called
    cases called
  · rw [receiver.call_ended] at called
    cases called
  · rw [stood.handler]
    exact own
  · rw [receiver.handler]
    exact other

theorem Begins.refused {reason : String} (begins : leg.Begins exchange) (sound : leg.Sound)
    (message : leg.message = .verdict false reason) (settlement : leg.settlement = .fail reason)
    (rejectable : Rejectable leg.receiver) : Settles (Ended .failed fun _ => none) exchange := by
  obtain ⟨bytes, size, underway⟩ := begins.underway
  obtain ⟨last, handled, hidden⟩ := rejectable reason (⟨leg.nonces, leg.receiverKeys⟩ : Supplies κ)
  rw [← message] at handled
  refine underway.ended sound handled (Or.inr rfl) ?_ ?_ hidden
  · rw [settlement]
    rfl
  · rw [settlement]
    rfl

end Leg

end Parley.Exchange
