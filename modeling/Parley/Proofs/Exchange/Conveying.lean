import Parley.Proofs.Exchange.Parties
import Parley.Proofs.SharedKey.Frames

/-!
A message on its way from one shared-key handler to the other. However the calls are ordered, its
bytes are in three places, with the receiver, in the frames and with the sender, and every call
moves some of them on.
-/

namespace Parley

namespace Exchange

open SharedKey Party

variable {κ : Type} [KeyStore κ] {capacity : Nat} {handler : SharedKey} {keys : κ}
  {next : NextCall} {party : Party κ SharedKey} {nonces : NonceSupply}

/-! ## The sender -/

inductive Sender (capacity : Nat) (base : SharedKey) (settlement : Settlement) (keys : κ) :
    Bytes → Party κ SharedKey → Prop
  | sending {left : Bytes} {party : Party κ SharedKey} (someLeft : left ≠ [])
      (stands : Stands capacity (base.sending settlement left) keys .produce none party) :
      Sender capacity base settlement keys left party
  | sent {party : Party κ SharedKey}
      (stands : Stands capacity (base.sent settlement) keys
        (react .produce (.ok (base.lifecycle.apply settlement).2)).1
        (react .produce (.ok (base.lifecycle.apply settlement).2)).2 party) :
      Sender capacity base settlement keys [] party

variable {base : SharedKey} {settlement : Settlement}

theorem Sender.call_of_sent (sender : Sender capacity base settlement keys [] party) :
    party.call nonces [] = none := by
  cases sender with
  | sending someLeft _ => exact absurd rfl someLeft
  | sent stands =>
      cases settlement with
      | await => exact stands.call_waiting
      | succeed credential => exact stands.call_ended []
      | fail reason => exact stands.call_ended []
      | delegate successor => exact stands.call_ended []

theorem Sender.call_of_left {left : Bytes} (sender : Sender capacity base settlement keys left party)
    (someLeft : left ≠ []) (engaged : Engaged base) (nonces : NonceSupply) (queue : List Bytes) :
    ∃ turn, party.call nonces queue = some turn ∧ turn.nonces = nonces ∧ turn.queue = queue ∧
      turn.answer = .ok (if left.length ≤ capacity then (base.lifecycle.apply settlement).2
        else .continue) ∧
      turn.sent = (if left.take capacity = [] then none else some (left.take capacity)) ∧
      Sender capacity base settlement keys (left.drop capacity) turn.party := by
  cases sender with
  | sent _ => exact absurd rfl someLeft
  | sending _ stands =>
      obtain ⟨_, contents, kept⟩ := Outbox.fill_clear left party.blob
      have called := stands.call_produce nonces queue
      have next := stands.next
      obtain rfl := stands.capacity
      rcases Nat.lt_or_ge party.blob.capacity left.length with exceeds | fits
      · rw [produce_part (engaged.sending settlement left) rfl rfl exceeds] at called
        rw [if_neg (Nat.not_le_of_lt exceeds)]
        refine ⟨_, called, rfl, rfl, rfl, ?_, .sending ?_ ?_⟩
        · rw [sent_after]
          exact sending_eq_ite rfl contents
        · rw [← List.length_pos_iff, List.length_drop]
          omega
        · refine ⟨rfl, rfl, ?_, ?_, kept⟩
          · simp [after, react, next]
          · simp [after, react]
      · rw [produce_rest (engaged.sending settlement left) rfl rfl fits] at called
        rw [if_pos fits]
        refine ⟨_, called, rfl, rfl, rfl, ?_, ?_⟩
        · rw [sent_after]
          exact sending_eq_ite rfl contents
        · rw [List.drop_of_length_le fits]
          refine .sent ⟨rfl, rfl, ?_, ?_, kept⟩
          · simp [after, next, SharedKey.sending]
          · simp [after, next, SharedKey.sending]

/-! ## The receiver -/

inductive Receiver (capacity : Nat) (base : SharedKey) (keys : κ) :
    Bytes → Nat → Party κ SharedKey → Prop
  | late {start : SharedKey} {party : Party κ SharedKey}
      (opens : ∀ (blob : Blob) (supplies : Supplies κ),
        Handler.produce start blob.clear supplies = ⟨.ok .needData, base, blob.clear, supplies⟩)
      (stands : Stands capacity start keys .produce none party) :
      Receiver capacity base keys [] 1 party
  | ready {got : Bytes} {party : Party κ SharedKey}
      (stands : Stands capacity (base.receiving got) keys .receive none party) :
      Receiver capacity base keys got 0 party

theorem Receiver.punctual {got : Bytes} {late : Nat}
    (receiver : Receiver capacity base keys got late party) : late = 0 ∨ late = 1 := by
  cases receiver with
  | late _ _ => exact Or.inr rfl
  | ready _ => exact Or.inl rfl

theorem Receiver.call_of_late {start : SharedKey}
    (opens : ∀ (blob : Blob) (supplies : Supplies κ),
      Handler.produce start blob.clear supplies = ⟨.ok .needData, base, blob.clear, supplies⟩)
    (stands : Stands capacity start keys .produce none party) (nonces : NonceSupply)
    (queue : List Bytes) :
    ∃ turn, party.call nonces queue = some turn ∧ turn.nonces = nonces ∧ turn.queue = queue ∧
      turn.answer = .ok .needData ∧ turn.sent = none ∧
      Receiver capacity base keys [] 0 turn.party := by
  have called := stands.call_produce nonces queue
  rw [opens] at called
  refine ⟨_, called, rfl, rfl, rfl, rfl, .ready ?_⟩
  rw [receiving_nil]
  refine ⟨rfl, rfl, rfl, rfl, ?_⟩
  simp only [after, Blob.capacity_clear, stands.capacity]

variable {message : Message} {bytes got frame : Bytes}

theorem Receiver.call_of_part {missing : Bytes}
    (stands : Stands capacity (base.receiving got) keys .receive none party)
    (engaged : Engaged base) (quiet : base.deferred = none) (empty : base.inbox = {})
    (encoded : message.encode = .ok bytes) (split : bytes = got ++ frame ++ missing)
    (someMissing : missing ≠ []) (fits : frame.length ≤ capacity) (nonces : NonceSupply)
    (queue : List Bytes) :
    ∃ turn, party.call nonces (frame :: queue) = some turn ∧ turn.nonces = nonces ∧
      turn.queue = queue ∧ turn.answer = .ok .needData ∧ turn.sent = none ∧
      Receiver capacity base keys (got ++ frame) 0 turn.party := by
  have called := stands.call_receive nonces frame queue
  obtain rfl := stands.capacity
  have nothing := nextMessage_part quiet empty encoded split someMissing
  rw [consume_part (engaged.receiving got) (Blob.unread_load fits) nothing] at called
  refine ⟨_, called, rfl, rfl, rfl, rfl, .ready ?_⟩
  rw [← receiving_receiving]
  refine ⟨rfl, rfl, rfl, rfl, ?_⟩
  simp only [after, Blob.capacity_taken, Blob.capacity_load]

theorem Receiver.call_of_whole {last : SharedKey} {later : Supplies κ} {answer : Answer}
    (stands : Stands capacity (base.receiving got) keys .receive none party)
    (engaged : Engaged base) (quiet : base.deferred = none) (empty : base.inbox = {})
    (encoded : message.encode = .ok bytes) (whole : bytes = got ++ frame)
    (fits : frame.length ≤ capacity)
    (handled : base.onMessage message ⟨nonces, keys⟩ = (last, later, answer))
    (more : answer ≠ .ok .needData) (queue : List Bytes) :
    ∃ turn, party.call nonces (frame :: queue) = some turn ∧ turn.nonces = later.nonces ∧
      turn.queue = queue ∧ turn.answer = answer ∧ turn.sent = none ∧
      (turn.party.blob.contents.drop turn.party.blob.position = []) ∧
      Stands capacity (last.settle answer) later.keys (react .receive answer).1
        (react .receive answer).2 turn.party := by
  have called := stands.call_receive nonces frame queue
  have next := stands.next
  obtain rfl := stands.capacity
  have found := nextMessage_whole quiet empty encoded whole
  rw [consume_answer (engaged.receiving got) (Blob.unread_load fits) found handled more] at called
  refine ⟨_, called, rfl, rfl, rfl, rfl, Blob.unread_taken _, rfl, rfl, ?_, ?_, ?_⟩
  · simp only [after, next]
  · simp only [after, next]
  · simp only [after, Blob.capacity_taken, Blob.capacity_load]

/-! ## Both -/

/-- One leg of a handshake: a message from a side to its peer, and how both stand around it. -/
structure Leg (κ : Type) where
  side : Role
  message : Message
  capacity : Nat
  nonces : NonceSupply
  sender : SharedKey
  settlement : Settlement
  senderKeys : κ
  receiver : SharedKey
  receiverKeys : κ

namespace Leg

variable {leg : Leg κ} {size : Nat} {exchange : Exchange κ SharedKey} {turn : PartyTurn κ SharedKey}
  {last : SharedKey} {later : Supplies κ} {mode : Mode}

structure Sound (leg : Leg κ) : Prop where
  room : 0 < leg.capacity
  sends : Engaged leg.sender
  receives : Engaged leg.receiver
  quiet : leg.receiver.deferred = none
  empty : leg.receiver.inbox = {}

structure Steady (leg : Leg κ) : Prop where
  sends : Engaged leg.sender
  receives : Engaged leg.receiver
  quiet : leg.receiver.deferred = none
  empty : leg.receiver.inbox = {}

omit [KeyStore κ] in
theorem Sound.steady (sound : leg.Sound) : leg.Steady :=
  ⟨sound.sends, sound.receives, sound.quiet, sound.empty⟩

/-- The message is on its way: some bytes with the receiver, some in the frames, some left. -/
structure Conveys (leg : Leg κ) (bytes got left : Bytes) (late : Nat)
    (exchange : Exchange κ SharedKey) : Prop where
  sender : Sender leg.capacity leg.sender leg.settlement leg.senderKeys left
    (exchange.party leg.side)
  receiver : Receiver leg.capacity leg.receiver leg.receiverKeys got late
    (exchange.party leg.side.peer)
  nonces : exchange.nonces = leg.nonces
  back : exchange.frames leg.side = []
  encoded : leg.message.encode = .ok bytes
  whole : bytes = got ++ ((exchange.frames leg.side.peer).flatten ++ left)
  missing : (exchange.frames leg.side.peer).flatten ++ left ≠ []
  frames : ∀ frame ∈ exchange.frames leg.side.peer, frame ≠ [] ∧ frame.length ≤ leg.capacity

/-- The message is on its way, and at most so many calls are left. -/
def Underway (leg : Leg κ) (bytes : Bytes) (size : Nat) (exchange : Exchange κ SharedKey) : Prop :=
  ∃ got left late, leg.Conveys bytes got left late exchange ∧
    2 * left.length + (exchange.frames leg.side.peer).length + late = size

structure Arrived (leg : Leg κ) (last : SharedKey) (later : Supplies κ) (mode : Mode)
    (exchange : Exchange κ SharedKey) : Prop where
  sender : Sender leg.capacity leg.sender leg.settlement leg.senderKeys [] (exchange.party leg.side)
  receiver : Stands leg.capacity last later.keys (react .receive (.ok mode)).1
    (react .receive (.ok mode)).2 (exchange.party leg.side.peer)
  unread : (exchange.party leg.side.peer).blob.contents.drop
    (exchange.party leg.side.peer).blob.position = []
  nonces : exchange.nonces = later.nonces
  back : exchange.frames leg.side = []
  forth : exchange.frames leg.side.peer = []

omit [KeyStore κ] in
theorem party_of_peer (leg : Leg κ) (exchange : Exchange κ SharedKey) (silent : turn.sent = none) :
    (exchange.place turn leg.side.peer).party leg.side = exchange.party leg.side ∧
      (exchange.place turn leg.side.peer).frames leg.side = exchange.frames leg.side := by
  have party := party_place_peer exchange turn leg.side.peer
  have frames := frames_place_peer exchange turn leg.side.peer
  rw [Role.peer_peer] at party frames
  rw [silent, Option.toList_none, List.append_nil] at frames
  exact ⟨party, frames⟩

variable {got left : Bytes} {late : Nat} {answer : Answer}

structure Heard (leg : Leg κ) (next : NextCall) (last : SharedKey) (later : Supplies κ)
    (answer : Answer) (exchange : Exchange κ SharedKey) : Prop where
  sender : Sender leg.capacity leg.sender leg.settlement leg.senderKeys [] (exchange.party leg.side)
  receiver : Stands leg.capacity (last.settle answer) later.keys (react next answer).1
    (react next answer).2 (exchange.party leg.side.peer)
  unread : (exchange.party leg.side.peer).blob.contents.drop
    (exchange.party leg.side.peer).blob.position = []
  nonces : exchange.nonces = later.nonces
  back : exchange.frames leg.side = []
  forth : exchange.frames leg.side.peer = []

omit [KeyStore κ] in
theorem Heard.arrived (heard : leg.Heard .receive last later (.ok mode) exchange) :
    leg.Arrived last later mode exchange :=
  ⟨heard.sender, heard.receiver, heard.unread, heard.nonces, heard.back, heard.forth⟩

theorem Conveys.call_sender (conveys : leg.Conveys bytes got left late exchange)
    (steady : leg.Steady) (someLeft : left ≠ []) :
    ∃ turn, (exchange.party leg.side).call exchange.nonces (exchange.frames leg.side) = some turn ∧
      turn.answer = .ok (if left.length ≤ leg.capacity then
        (leg.sender.lifecycle.apply leg.settlement).2 else .continue) ∧
      turn.sent = (if left.take leg.capacity = [] then none else some (left.take leg.capacity)) ∧
      leg.Conveys bytes got (left.drop leg.capacity) late (exchange.place turn leg.side) := by
  obtain ⟨sender, receiver, nonces, back, encoded, whole, missing, frames⟩ := conveys
  obtain ⟨turn, called, kept, queue, answer, sent, sender⟩ :=
    sender.call_of_left someLeft steady.sends exchange.nonces (exchange.frames leg.side)
  have grown : ((exchange.place turn leg.side).frames leg.side.peer).flatten =
      (exchange.frames leg.side.peer).flatten ++ left.take leg.capacity := by
    rw [frames_place_peer, sent]
    split
    · rename_i nothing
      simp [nothing]
    · simp
  refine ⟨turn, called, answer, sent, ?_, ?_, ?_, ?_, encoded, ?_, ?_, ?_⟩
  · rwa [party_place]
  · rwa [party_place_peer]
  · rw [nonces_place, kept, nonces]
  · rw [frames_place, queue, back]
  · rw [grown, List.append_assoc, List.take_append_drop, whole]
  · rw [grown, List.append_assoc, List.take_append_drop]
    exact missing
  · intro frame member
    rw [frames_place_peer, sent, List.mem_append] at member
    rcases member with old | new
    · exact frames frame old
    · split at new
      · cases new
      · rename_i someBytes
        obtain rfl := List.mem_singleton.mp new
        exact ⟨someBytes, by rw [List.length_take]; exact Nat.min_le_left _ _⟩

theorem Conveys.call_late (conveys : leg.Conveys bytes got left 1 exchange) :
    ∃ turn, (exchange.party leg.side.peer).call exchange.nonces (exchange.frames leg.side.peer) =
        some turn ∧
      turn.answer = .ok .needData ∧ turn.sent = none ∧
      turn.queue = exchange.frames leg.side.peer ∧
      leg.Conveys bytes got left 0 (exchange.place turn leg.side.peer) := by
  obtain ⟨sender, receiver, nonces, back, encoded, whole, missing, frames⟩ := conveys
  cases receiver with
  | late opens stands =>
      obtain ⟨turn, called, kept, queue, answer, sent, receiver⟩ :=
        Receiver.call_of_late opens stands exchange.nonces (exchange.frames leg.side.peer)
      obtain ⟨sameParty, sameFrames⟩ := party_of_peer leg exchange sent
      refine ⟨turn, called, answer, sent, queue, ?_, ?_, ?_, ?_, encoded, ?_, ?_, ?_⟩
      · rwa [sameParty]
      · rwa [party_place]
      · rw [nonces_place, kept, nonces]
      · rw [sameFrames, back]
      · rwa [frames_place, queue]
      · rwa [frames_place, queue]
      · rwa [frames_place, queue]

theorem Conveys.call_waiting (conveys : leg.Conveys bytes got left 0 exchange)
    (queue : exchange.frames leg.side.peer = []) :
    (exchange.party leg.side.peer).call exchange.nonces (exchange.frames leg.side.peer) = none := by
  cases conveys.receiver with
  | ready stands => rw [queue, stands.call_waiting]

variable {frame : Bytes} {rest : List Bytes}

theorem Conveys.rest_eq_nil (conveys : leg.Conveys bytes got left late exchange)
    (framesEq : exchange.frames leg.side.peer = frame :: rest) (nothing : rest.flatten = []) :
    rest = [] := by
  cases rest with
  | nil => rfl
  | cons second rest =>
      have someBytes := (conveys.frames second (by rw [framesEq]; simp)).1
      simp [someBytes] at nothing

theorem Conveys.call_frame (conveys : leg.Conveys bytes got left 0 exchange)
    (steady : leg.Steady) (framesEq : exchange.frames leg.side.peer = frame :: rest)
    (more : rest.flatten ++ left ≠ []) :
    ∃ turn, (exchange.party leg.side.peer).call exchange.nonces (exchange.frames leg.side.peer) =
        some turn ∧
      turn.answer = .ok .needData ∧ turn.sent = none ∧ turn.queue = rest ∧
      leg.Conveys bytes (got ++ frame) left 0 (exchange.place turn leg.side.peer) := by
  obtain ⟨sender, receiver, nonces, back, encoded, whole, missing, frames⟩ := conveys
  rw [framesEq] at whole missing frames ⊢
  cases receiver with
  | ready stands =>
      have split : bytes = got ++ frame ++ (rest.flatten ++ left) := by
        rw [whole, List.flatten_cons]
        simp only [List.append_assoc]
      obtain ⟨turn, called, kept, queue, answer, sent, receiver⟩ :=
        Receiver.call_of_part stands steady.receives steady.quiet steady.empty encoded split more
          (frames frame (by simp)).2 exchange.nonces rest
      obtain ⟨sameParty, sameFrames⟩ := party_of_peer leg exchange sent
      refine ⟨turn, called, answer, sent, queue, ?_, ?_, ?_, ?_, encoded, ?_, ?_, ?_⟩
      · rwa [sameParty]
      · rwa [party_place]
      · rw [nonces_place, kept, nonces]
      · rw [sameFrames, back]
      · rwa [frames_place, queue]
      · rwa [frames_place, queue]
      · rw [frames_place, queue]
        exact fun frame member => frames frame (by simp [member])

theorem Conveys.call_last (conveys : leg.Conveys bytes got [] 0 exchange)
    (steady : leg.Steady) (framesEq : exchange.frames leg.side.peer = [frame])
    (handled : leg.receiver.onMessage leg.message ⟨leg.nonces, leg.receiverKeys⟩ =
      (last, later, answer)) (more : answer ≠ .ok .needData) :
    ∃ turn, (exchange.party leg.side.peer).call exchange.nonces (exchange.frames leg.side.peer) =
        some turn ∧
      turn.answer = answer ∧ turn.sent = none ∧
      leg.Heard .receive last later answer (exchange.place turn leg.side.peer) := by
  obtain ⟨sender, receiver, nonces, back, encoded, whole, missing, frames⟩ := conveys
  rw [framesEq] at whole frames ⊢
  cases receiver with
  | ready stands =>
      rw [← nonces] at handled
      have split : bytes = got ++ frame := by simpa using whole
      obtain ⟨turn, called, kept, queue, answered, sent, unread, stands⟩ :=
        Receiver.call_of_whole stands steady.receives steady.quiet steady.empty encoded split
          (frames frame (by simp)).2 handled more []
      obtain ⟨sameParty, sameFrames⟩ := party_of_peer leg exchange sent
      refine ⟨turn, called, answered, sent, ?_, ?_, ?_, ?_, ?_, ?_⟩
      · rwa [sameParty]
      · rwa [party_place]
      · rwa [party_place]
      · rw [nonces_place, kept]
      · rw [sameFrames, back]
      · rw [frames_place, queue]

theorem Underway.sends (underway : leg.Underway bytes size exchange) (sound : leg.Sound)
    (called : (exchange.party leg.side).call exchange.nonces (exchange.frames leg.side) =
      some turn) :
    ∃ smaller < size, leg.Underway bytes smaller (exchange.place turn leg.side) := by
  obtain ⟨got, left, late, conveys, measure⟩ := underway
  by_cases someLeft : left = []
  · subst someLeft
    rw [conveys.back, conveys.sender.call_of_sent] at called
    cases called
  · obtain ⟨turn', called', _, sent, conveys⟩ := conveys.call_sender sound.steady someLeft
    obtain rfl := Option.some.inj (called'.symm.trans called)
    refine ⟨_, ?_, got, left.drop leg.capacity, late, conveys, rfl⟩
    have room := sound.room
    have positive := List.length_pos_iff.mpr someLeft
    have someBytes : left.take leg.capacity ≠ [] := by
      rw [← List.length_pos_iff, List.length_take]
      omega
    rw [frames_place_peer, sent, if_neg someBytes, Option.toList_some, List.length_append,
      List.length_singleton, List.length_drop]
    omega

theorem Underway.takes (underway : leg.Underway bytes size exchange) (sound : leg.Sound)
    (handled : leg.receiver.onMessage leg.message ⟨leg.nonces, leg.receiverKeys⟩ =
      (last, later, .ok mode)) (more : mode ≠ .needData)
    (called : (exchange.party leg.side.peer).call exchange.nonces
      (exchange.frames leg.side.peer) = some turn) :
    (∃ smaller < size, leg.Underway bytes smaller (exchange.place turn leg.side.peer)) ∨
      leg.Arrived last later mode (exchange.place turn leg.side.peer) := by
  obtain ⟨got, left, late, conveys, measure⟩ := underway
  rcases conveys.receiver.punctual with rfl | rfl
  · cases queue : exchange.frames leg.side.peer with
    | nil =>
        rw [conveys.call_waiting queue] at called
        cases called
    | cons frame rest =>
        by_cases complete : rest.flatten ++ left = []
        · obtain ⟨noneRest, rfl⟩ := List.append_eq_nil_iff.mp complete
          obtain rfl := conveys.rest_eq_nil queue noneRest
          obtain ⟨turn', called', _, _, heard⟩ := conveys.call_last sound.steady queue handled
            fun same => more (Except.ok.inj same)
          obtain rfl := Option.some.inj (called'.symm.trans called)
          exact Or.inr heard.arrived
        · obtain ⟨turn', called', _, sent, leftQueue, conveys⟩ :=
            conveys.call_frame sound.steady queue complete
          obtain rfl := Option.some.inj (called'.symm.trans called)
          refine Or.inl ⟨_, ?_, got ++ frame, left, 0, conveys, rfl⟩
          rw [← measure, frames_place, leftQueue, queue, List.length_cons]
          omega
  · obtain ⟨turn', called', _, _, queue, conveys⟩ := conveys.call_late
    obtain rfl := Option.some.inj (called'.symm.trans called)
    refine Or.inl ⟨_, ?_, got, left, 0, conveys, rfl⟩
    rw [← measure, frames_place, queue]
    omega

theorem Underway.not_stuck (underway : leg.Underway bytes size exchange) (sound : leg.Sound)
    (senderStuck : (exchange.party leg.side).call exchange.nonces (exchange.frames leg.side) =
      none)
    (receiverStuck : (exchange.party leg.side.peer).call exchange.nonces
      (exchange.frames leg.side.peer) = none) : False := by
  obtain ⟨got, left, late, ⟨sender, receiver, _, _, _, _, missing, _⟩, _⟩ := underway
  by_cases someLeft : left = []
  · subst someLeft
    cases receiver with
    | late opens stands =>
        rw [stands.call_produce] at receiverStuck
        cases receiverStuck
    | ready stands =>
        cases queue : exchange.frames leg.side.peer with
        | nil => simp [queue] at missing
        | cons frame rest =>
            rw [queue, stands.call_receive] at receiverStuck
            cases receiverStuck
  · obtain ⟨turn, called, _⟩ :=
      sender.call_of_left someLeft sound.sends exchange.nonces (exchange.frames leg.side)
    rw [called] at senderStuck
    cases senderStuck

/-- An exchange with a message on its way settles if it does so once the message is handled. -/
theorem Underway.settles {kind : Exchange κ SharedKey → Prop}
    (underway : leg.Underway bytes size exchange) (sound : leg.Sound)
    (handled : leg.receiver.onMessage leg.message ⟨leg.nonces, leg.receiverKeys⟩ =
      (last, later, .ok mode)) (more : mode ≠ .needData)
    (arrives : ∀ exchange, leg.Arrived last later mode exchange → Settles kind exchange) :
    Settles kind exchange := by
  induction size using Nat.strongRecOn generalizing exchange with
  | ind size ih =>
      refine settles_of_parties leg.side (fun turn called => ?_) (fun turn called => ?_)
        fun senderStuck receiverStuck =>
          (underway.not_stuck sound senderStuck receiverStuck).elim
      · obtain ⟨smaller, less, underway'⟩ := underway.sends sound called
        exact ih smaller less underway'
      · rcases underway.takes sound handled more called with ⟨smaller, less, underway'⟩ | arrived
        · exact ih smaller less underway'
        · exact arrives _ arrived

end Leg

end Exchange

end Parley
