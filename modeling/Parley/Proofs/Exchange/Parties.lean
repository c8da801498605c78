import Parley.Proofs.Conversation.Turns
import Parley.Proofs.Exchange.Settles
import Parley.Proofs.Handler.Frames
import Parley.Proofs.Message.Blobs

/-!
Parties of an exchange and what they say to each other. A handler that sends or takes in frames has
a party that says or hears them, one with each of its calls, and exchanges are conversations of
their parties.
-/

namespace Parley

variable {κ σ : Type} [HasFace σ] [Handler (Supplies κ) σ]

namespace Exchange

variable {capacity : Nat} {handler : σ} {keys : κ} {next : NextCall} {party : Party κ σ}
  {nonces : NonceSupply}

structure Stands (capacity : Nat) (handler : σ) (keys : κ) (next : NextCall)
    (outcome : Option Answer) (party : Party κ σ) : Prop where
  handler : party.handler = handler
  keys : party.keys = keys
  next : party.next = next
  outcome : party.outcome = outcome
  capacity : party.blob.capacity = capacity

omit [HasFace σ] [Handler (Supplies κ) σ] in
@[simp] theorem sent_after (party : Party κ σ) (turn : Turn (Supplies κ) σ)
    (queue : List Bytes) (sent : Option Bytes) : (party.after turn queue sent).sent = sent := rfl

theorem Stands.call_produce (stands : Stands capacity handler keys .produce none party)
    (nonces : NonceSupply) (queue : List Bytes) :
    party.call nonces queue =
      some (party.after (Handler.produce handler party.blob.clear ⟨nonces, keys⟩) queue
        (Party.sending
          (Handler.produce handler party.blob.clear (⟨nonces, keys⟩ : Supplies κ)))) := by
  obtain ⟨rfl, rfl, next, outcome, _⟩ := stands
  simp [Party.call, next, outcome]

theorem Stands.call_receive (stands : Stands capacity handler keys .receive none party)
    (nonces : NonceSupply) (frame : Bytes) (queue : List Bytes) :
    party.call nonces (frame :: queue) =
      some (party.after (Handler.consume handler (party.blob.load frame) ⟨nonces, keys⟩) queue
        none) := by
  obtain ⟨rfl, rfl, next, outcome, _⟩ := stands
  simp [Party.call, next, outcome]

theorem Stands.call_consume (stands : Stands capacity handler keys .consume none party)
    (nonces : NonceSupply) (queue : List Bytes) :
    party.call nonces queue =
      some (party.after (Handler.consume handler party.blob ⟨nonces, keys⟩) queue none) := by
  obtain ⟨rfl, rfl, next, outcome, _⟩ := stands
  simp [Party.call, next, outcome]

theorem Stands.call_waiting (stands : Stands capacity handler keys .receive none party) :
    party.call nonces [] = none := by
  obtain ⟨rfl, rfl, next, outcome, _⟩ := stands
  simp [Party.call, next, outcome]

theorem Stands.call_ended {answer : Answer}
    (stands : Stands capacity handler keys next (some answer) party) (queue : List Bytes) :
    party.call nonces queue = none := by
  obtain ⟨rfl, rfl, next, outcome, _⟩ := stands
  simp [Party.call, outcome]

omit [HasFace σ] [Handler (Supplies κ) σ] in
theorem sending_eq_ite {turn : Turn (Supplies κ) σ} {mode : Mode} {frame : Bytes}
    (answer : turn.answer = .ok mode) (contents : turn.blob.contents = frame) :
    Party.sending turn = if frame = [] then none else some frame := by
  have empty : turn.blob.isEmpty = frame.isEmpty := by rw [Blob.isEmpty_eq, contents]
  simp only [Party.sending, answer, empty, contents, List.isEmpty_iff]

omit [HasFace σ] [Handler (Supplies κ) σ] in
theorem sending_eq {turn : Turn (Supplies κ) σ} {mode : Mode} {frame : Bytes}
    (answer : turn.answer = .ok mode) (contents : turn.blob.contents = frame)
    (someBytes : frame ≠ []) : Party.sending turn = some frame := by
  rw [sending_eq_ite answer contents, if_neg someBytes]

end Exchange

/-! ## Exchanges as conversations -/

namespace Party

open Conversation

/-- What a call of a party does: it says a frame, hears one, or neither. -/
inductive Acts (party : Party κ σ) (nonces : NonceSupply) :
    Act Bytes → Party κ σ → NonceSupply → Prop
  | quiet {turn : PartyTurn κ σ} (called : party.call nonces [] = some turn)
      (silent : turn.sent = none) : Acts party nonces .quiet turn.party turn.nonces
  | send {turn : PartyTurn κ σ} {frame : Bytes} (called : party.call nonces [] = some turn)
      (sent : turn.sent = some frame) : Acts party nonces (.send [frame]) turn.party turn.nonces
  | receive {turn : PartyTurn κ σ} {frame : Bytes} (waits : party.next = .receive)
      (called : party.call nonces [frame] = some turn) :
      Acts party nonces (.receive [frame]) turn.party turn.nonces

theorem call_cases {party : Party κ σ} {nonces : NonceSupply} {queue : List Bytes}
    {turn : PartyTurn κ σ} (called : party.call nonces queue = some turn) :
    (turn.queue = queue ∧ party.call nonces [] = some { turn with queue := [] }) ∨
      (party.next = .receive ∧ turn.sent = none ∧ ∃ frame, queue = frame :: turn.queue ∧
        party.call nonces [frame] = some { turn with queue := [] }) := by
  rw [Party.call.eq_def] at called ⊢
  split at called
  · cases called
  · rename_i going
    simp only [going, Bool.false_eq_true, if_false]
    split at called
    · rename_i next
      cases called
      refine Or.inl ⟨rfl, ?_⟩
      rw [next]
      rfl
    · cases called
    · rename_i frame rest next
      cases called
      refine Or.inr ⟨next, rfl, frame, rfl, ?_⟩
      simp only [Party.call, going, Bool.false_eq_true, if_false, next]
      rfl
    · rename_i next
      cases called
      refine Or.inl ⟨rfl, ?_⟩
      rw [next]
      rfl

/-- What a party does without its queue it also does with frames in it that it has yet to take. -/
theorem Acts.call {party next : Party κ σ} {nonces later : NonceSupply} {act : Act Bytes}
    (acts : party.Acts nonces act next later) (queue : List Bytes)
    (taken : ∀ items, act = .receive items → ∃ rest, queue = items ++ rest) :
    (party.call nonces queue).isSome := by
  cases acts with
  | quiet called _ | send called _ =>
      rw [Party.call.eq_def] at called ⊢
      split at called
      · cases called
      · rename_i going
        simp only [going, Bool.false_eq_true, if_false]
        split at called
        · rename_i produces
          rw [produces]
          rfl
        · cases called
        · rename_i same
          cases same
        · rename_i consumes
          rw [consumes]
          rfl
  | @receive _ frame waits called =>
      obtain ⟨rest, rfl⟩ := taken [frame] rfl
      rw [Party.call.eq_def] at called ⊢
      split at called
      · cases called
      · rename_i going
        rw [if_neg going, waits]
        rfl

end Party

namespace Exchange

open Conversation

def link (exchange : Exchange κ σ) (side : Role) : Link (Party κ σ) NonceSupply Bytes where
  one := exchange.party side
  other := exchange.party side.peer
  shared := exchange.nonces
  toOne := exchange.frames side
  toOther := exchange.frames side.peer

variable {exchange next : Exchange κ σ} {side : Role} {entry : ExchangeEntry}

omit [HasFace σ] [Handler (Supplies κ) σ] in
theorem link_peer (exchange : Exchange κ σ) (side : Role) :
    exchange.link side.peer = (exchange.link side).swap := by
  simp [link, Link.swap]

theorem step_of_call (called : exchange.call side = some (entry, next)) :
    Step Party.Acts (fun _ => True) (exchange.link side) (next.link side) := by
  rw [call_eq, Option.map_eq_some_iff] at called
  obtain ⟨turn, called, same⟩ := called
  obtain ⟨_, rfl⟩ := Prod.mk.inj same
  have placed : (exchange.place turn side).link side =
      ⟨turn.party, exchange.party side.peer, turn.nonces, turn.queue,
        exchange.frames side.peer ++ turn.sent.toList⟩ := by
    simp [link]
  rw [placed]
  rcases Party.call_cases called with ⟨kept, alone⟩ | ⟨waits, silent, frame, split, alone⟩
  · cases sent : turn.sent with
    | none =>
        have acts := Party.Acts.quiet alone sent
        rw [kept, Option.toList_none, List.append_nil]
        exact .quiet acts
    | some frame =>
        have acts := Party.Acts.send alone sent
        rw [kept]
        exact .send acts trivial
  · have acts := Party.Acts.receive waits alone
    rw [silent, Option.toList_none, List.append_nil]
    exact .receive acts split

theorem move_of_call {calledSide : Role} (called : exchange.call calledSide = some (entry, next))
    (side : Role) : Move Party.Acts (fun _ => True) (exchange.link side) (next.link side) := by
  have step := step_of_call called
  by_cases same : calledSide = side
  · subst same
    exact .here step
  · obtain rfl : calledSide = side.peer := by
      cases calledSide <;> cases side <;> simp_all [Role.peer]
    have swapped : next.link side = (next.link side.peer).swap := by
      rw [← link_peer, Role.peer_peer]
    rw [swapped]
    rw [link_peer] at step
    exact .there step

theorem call_of_step {after : Link (Party κ σ) NonceSupply Bytes}
    (step : Step Party.Acts (fun _ => True) (exchange.link side) after) :
    exchange.call side ≠ none := by
  have called : ((exchange.party side).call exchange.nonces (exchange.frames side)).isSome := by
    cases step with
    | quiet acts => exact acts.call _ fun _ same => by cases same
    | send acts _ => exact acts.call _ fun _ same => by cases same
    | receive acts split => exact acts.call _ fun _ same => by cases same; exact ⟨_, split⟩
  rw [call_eq]
  intro none
  rw [Option.map_eq_none_iff] at none
  rw [none] at called
  cases called

theorem settles_of_link {goal : Link (Party κ σ) NonceSupply Bytes → Prop}
    (settles : Conversation.Settles (Move Party.Acts fun _ => True) goal (exchange.link side)) :
    Settles (fun last => goal (last.link side)) exchange := by
  generalize same : exchange.link side = origin at settles
  induction settles generalizing exchange with
  | intro _ ends ih =>
      subst same
      refine .intro (fun _ _ next called => ih _ (move_of_call called side) rfl) fun stuck => ?_
      refine ends fun next moved => ?_
      cases moved with
      | here step => exact call_of_step step (stuck side)
      | there step =>
          rw [← link_peer] at step
          exact call_of_step step (stuck side.peer)

/-! ## Saying and hearing -/

variable {capacity : Nat} {mode : Mode} {handler last : σ} {keys : κ} {nonces : NonceSupply}
  {now later : Supplies κ} {frames : List Bytes} {party : Party κ σ} {goes : Party κ σ → Prop}

theorem Stands.produces {frame : Bytes} {handled : σ} {now later : Supplies κ}
    (stands : Stands capacity handler now.keys .produce none party) (someBytes : frame ≠ [])
    (produces : Produces capacity handler now frame mode handled later) :
    ∃ turn, party.call now.nonces [] = some turn ∧ turn.sent = some frame ∧
      turn.nonces = later.nonces ∧
      Stands capacity handled later.keys (Party.react .produce (.ok mode)).1
        (Party.react .produce (.ok mode)).2 turn.party := by
  have called := stands.call_produce now.nonces []
  obtain ⟨filled, contents, kept, produced⟩ := produces party.blob stands.capacity
  rw [produced] at called
  rw [sending_eq rfl contents someBytes] at called
  refine ⟨_, called, rfl, rfl, ?_⟩
  rw [← stands.next]
  exact ⟨rfl, rfl, rfl, rfl, kept⟩

theorem Stands.consumes {frame : Bytes} {handled : σ} {now later : Supplies κ}
    (stands : Stands capacity handler now.keys .receive none party)
    (consumes : Consumes capacity handler now frame mode handled later) :
    ∃ turn, party.call now.nonces [frame] = some turn ∧ turn.nonces = later.nonces ∧
      Stands capacity handled later.keys (Party.react .receive (.ok mode)).1
        (Party.react .receive (.ok mode)).2 turn.party := by
  have called := stands.call_receive now.nonces frame []
  obtain ⟨emptied, kept, consumed⟩ := consumes party.blob stands.capacity
  rw [consumed] at called
  refine ⟨_, called, rfl, ?_⟩
  rw [← stands.next]
  exact ⟨rfl, rfl, rfl, rfl, kept⟩

theorem speaks_of_sends (sends : Sends capacity mode last later frames handler now)
    (stands : Stands capacity handler now.keys .produce none party)
    (goesOn : ∀ party, Stands capacity last later.keys (Party.react .produce (.ok mode)).1
      (Party.react .produce (.ok mode)).2 party → goes party) :
    Speaks Party.Acts goes later.nonces frames now.nonces party := by
  have speaks {frame : Bytes} {frames : List Bytes} {handler handled : σ} {now middle : Supplies κ}
      {mode : Mode} {party : Party κ σ}
      (stands : Stands capacity handler now.keys .produce none party) (fits : Fits capacity frame)
      (produces : Produces capacity handler now frame mode handled middle)
      (laterSpeaks : ∀ party, Stands capacity handled middle.keys
        (Party.react .produce (.ok mode)).1 (Party.react .produce (.ok mode)).2 party →
        Speaks Party.Acts goes later.nonces frames middle.nonces party) :
      Speaks Party.Acts goes later.nonces (frame :: frames) now.nonces party := by
    obtain ⟨turn, called, sent, rflNonces, stands'⟩ := stands.produces fits.someBytes produces
    refine .sends (by simp) (fun _ _ _ acts => ?_) ⟨frame, _, _, .send called sent⟩
      fun part rest _ _ _ split acts => ?_
    · cases acts with
      | quiet other silent =>
          cases called.symm.trans other
          rw [sent] at silent
          cases silent
      | send other same =>
          cases called.symm.trans other
          rw [sent] at same
          cases same
          exact ⟨[frame], frames, by simp, rfl, rfl⟩
      | receive waits _ =>
          rw [stands.next] at waits
          cases waits
    · cases acts with
      | send other same =>
          cases called.symm.trans other
          rw [sent] at same
          cases same
          cases split
          rw [rflNonces]
          exact laterSpeaks _ stands'
  induction sends generalizing party with
  | last fits produces =>
      exact speaks stands fits produces fun party stands => .done (goesOn party stands)
  | part fits produces _ ih => exact speaks stands fits produces fun party stands => ih stands

theorem hears_of_takes {middle : σ} {final : Bytes}
    (takes : Takes (Supplies κ) capacity middle frames handler)
    (consumes : ∀ nonces, Consumes capacity middle (⟨nonces, keys⟩ : Supplies κ) final mode last
      ⟨nonces, keys⟩)
    (stands : Stands capacity handler keys .receive none party)
    (goesOn : ∀ party, Stands capacity last keys (Party.react .receive (.ok mode)).1
      (Party.react .receive (.ok mode)).2 party → goes party) :
    Hears Party.Acts goes (frames ++ [final]) party := by
  have hears {frame : Bytes} {frames : List Bytes} {handler handled : σ} {mode : Mode}
      {party : Party κ σ} (stands : Stands capacity handler keys .receive none party)
      (consumes : ∀ nonces, Consumes capacity handler (⟨nonces, keys⟩ : Supplies κ) frame mode
        handled ⟨nonces, keys⟩)
      (laterHears : ∀ party, Stands capacity handled keys (Party.react .receive (.ok mode)).1
        (Party.react .receive (.ok mode)).2 party → Hears Party.Acts goes frames party) :
      Hears Party.Acts goes (frame :: frames) party := by
    have heard (nonces : NonceSupply) := stands.consumes (consumes nonces)
    refine .hears (by simp) (fun _ _ _ _ acts => ?_) (fun shared item rest split => ?_)
      (fun shared _ _ _ _ _ split acts => ?_) fun shared _ _ _ _ _ split acts => ?_
    · cases acts with
      | quiet other _ | send other _ =>
          rw [stands.call_waiting] at other
          cases other
      | receive _ _ => exact ⟨_, by simp, rfl⟩
    · cases split
      obtain ⟨turn, called, kept, _⟩ := heard shared
      have acts := Party.Acts.receive stands.next called
      rw [kept] at acts
      exact ⟨_, acts⟩
    · cases acts with
      | receive _ other =>
          cases split
          obtain ⟨turn, called, kept, _⟩ := heard shared
          cases called.symm.trans other
          exact kept
    · cases acts with
      | receive _ other =>
          cases split
          obtain ⟨turn, called, _, stands'⟩ := heard shared
          cases called.symm.trans other
          exact laterHears _ stands'
  induction takes generalizing party with
  | nothing => exact hears stands consumes fun party stands => .done (goesOn party stands)
  | frame taken _ ih =>
      exact hears stands (fun nonces => taken ⟨nonces, keys⟩) fun party stands => ih stands

end Exchange

end Parley
