import Mathlib.Data.List.Forall2
import Parley.Outcome
import Parley.Proofs.Exchange.Legs
import Parley.Proofs.Message.Veiled

/-!
An exchange run twice. Both runs keep alike if each call can be made in both or in neither, answers
the same and sends as much, and if what is sent differs only in proofs.
-/

namespace Parley

/-! ## What is seen of a handler -/

def Credential.bare (credential : Credential) : String × String :=
  (credential.peer, credential.protocol)

structure Face.SameButKey (first second : Face) : Prop where
  protocol : first.protocol = second.protocol
  identity : first.identity = second.identity
  role : first.role = second.role
  info : first.info = second.info
  credential : first.credential.map Credential.bare = second.credential.map Credential.bare

namespace Face.SameButKey

variable {first second : Face}

theorem of_eq (same : first = second) : first.SameButKey second := by
  subst same
  exact ⟨rfl, rfl, rfl, rfl, rfl⟩

theorem report_conclude (same : first.SameButKey second) (mode : Mode) :
    (Outcome.conclude first mode).report = (Outcome.conclude second mode).report := by
  obtain ⟨protocol, _, _, info, credential⟩ := same
  rcases one : first.credential with _ | shown <;> rcases other : second.credential with _ | hidden
  · cases mode <;> simp only [Outcome.conclude, one, other, protocol, info]
  · simp [one, other] at credential
  · simp [one, other] at credential
  · have summary : shown.summary = hidden.summary := by
      rw [one, other, Option.map_some, Option.map_some, Option.some.injEq, Credential.bare,
        Credential.bare, Prod.mk.injEq] at credential
      rw [Credential.summary, Credential.summary, credential.1, credential.2]
    cases mode <;>
      simp only [Outcome.conclude, one, other, protocol, info, Outcome.report, Outcome.name,
        Outcome.protocol, Outcome.credential, Outcome.info, Option.map_some, summary]

theorem describe (same : first.SameButKey second) (time : String) :
    first.credential.map (Credential.describe · time) =
      second.credential.map (Credential.describe · time) := by
  have shown (face : Face) : face.credential.map (Credential.describe · time) =
      (face.credential.map Credential.bare).map
        fun bare => Credential.describe ⟨bare.1, bare.2, []⟩ time := by
    rw [Option.map_map]
    rfl
  rw [shown, shown, same.credential]

end Face.SameButKey

inductive Settlement.SameButKey : Settlement → Settlement → Prop
  | same (settlement : Settlement) : SameButKey settlement settlement
  | succeed {one other : Credential} (bare : one.bare = other.bare) :
      SameButKey (.succeed one) (.succeed other)

theorem Settlement.SameButKey.of_keys (peer protocol : String) (key other : Bytes) :
    SameButKey (.succeed ⟨peer, protocol, key⟩) (.succeed ⟨peer, protocol, other⟩) :=
  .succeed rfl

theorem Settlement.SameButKey.apply {one other : Settlement} (same : one.SameButKey other)
    (lifecycle : Lifecycle) :
    (lifecycle.apply one).2 = (lifecycle.apply other).2 ∧
      (lifecycle.apply one).1.face.SameButKey (lifecycle.apply other).1.face := by
  cases same with
  | same => exact ⟨rfl, .of_eq rfl⟩
  | succeed bare => exact ⟨rfl, rfl, rfl, rfl, rfl, congrArg some bare⟩

/-! ## Logs -/

namespace ExchangeEntry

structure Alike (one other : ExchangeEntry) : Prop where
  side : one.side = other.side
  answer : one.answer = other.answer
  sent : one.sent.map List.length = other.sent.map List.length

def stream (side : Role) (log : List ExchangeEntry) : Bytes :=
  log.flatMap fun entry => if entry.side = side then entry.sent.getD [] else []

theorem stream_concat (side : Role) (log : List ExchangeEntry) (entry : ExchangeEntry) :
    stream side (log ++ [entry]) =
      stream side log ++ if entry.side = side then entry.sent.getD [] else [] := by
  simp [stream]

end ExchangeEntry

theorem Role.eq_or_peer (any side : Role) : any = side ∨ any = side.peer := by
  cases any <;> cases side <;> simp [Role.peer]

namespace Exchange

open ExchangeEntry Party

variable {κ : Type} [KeyStore κ]

def follow (exchange : Exchange κ SharedKey) : List Role → List ExchangeEntry × Exchange κ SharedKey
  | [] => ([], exchange)
  | side :: schedule =>
    let (entry, next) := exchange.attempt side
    let (log, last) := next.follow schedule
    (entry ++ log, last)

/-- An exchange that is run twice, with the logs of both runs. -/
structure Twofold (κ : Type) where
  one : Exchange κ SharedKey
  other : Exchange κ SharedKey
  log : List ExchangeEntry := []
  others : List ExchangeEntry := []

structure AlikeParties (one other : Party κ SharedKey) : Prop where
  next : one.next = other.next
  outcome : one.outcome = other.outcome
  face : (face one.handler).SameButKey (face other.handler)

namespace Twofold

variable {run : Twofold κ} {count : Nat} {side : Role}

/-- Both runs have made the same calls, and what was sent differs only in proofs. -/
structure Alike (run : Twofold κ) : Prop where
  calls : List.Forall₂ ExchangeEntry.Alike run.log run.others
  streams (side : Role) : Veiled.Cut (stream side run.log) (stream side run.others)
  parties (side : Role) : AlikeParties (run.one.party side) (run.other.party side)

def after (run : Twofold κ) (side : Role) (turn other : PartyTurn κ SharedKey) : Twofold κ where
  one := run.one.place turn side
  other := run.other.place other side
  log := run.log ++ [⟨side, turn.answer, turn.sent⟩]
  others := run.others ++ [⟨side, other.answer, other.sent⟩]

inductive Calls (goal : Twofold κ → Prop) (run : Twofold κ) (side : Role) : Prop
  | stuck (one : (run.one.party side).call run.one.nonces (run.one.frames side) = none)
      (other : (run.other.party side).call run.other.nonces (run.other.frames side) = none) :
      Calls goal run side
  | turn {turn again : PartyTurn κ SharedKey}
      (one : (run.one.party side).call run.one.nonces (run.one.frames side) = some turn)
      (other : (run.other.party side).call run.other.nonces (run.other.frames side) = some again)
      (next : goal (run.after side turn again)) : Calls goal run side

theorem Calls.imp {goal other : Twofold κ → Prop} (calls : Calls goal run side)
    (implies : ∀ next, goal next → other next) : Calls other run side := by
  cases calls with
  | stuck one other => exact .stuck one other
  | turn one other next => exact .turn one other (implies _ next)

/-- Both runs are alike, and they stay so whatever the order of so many more calls. -/
def Keeps : Nat → Twofold κ → Prop
  | 0, run => run.Alike
  | count + 1, run => run.Alike ∧ ∀ side, Calls (Keeps count) run side

theorem Keeps.alike (keeps : run.Keeps count) : run.Alike := by
  cases count with
  | zero => exact keeps
  | succ count => exact keeps.1

theorem Keeps.shorter (keeps : run.Keeps (count + 1)) : run.Keeps count := by
  induction count generalizing run with
  | zero => exact keeps.alike
  | succ count ih =>
      exact ⟨keeps.1, fun side => (keeps.2 side).imp fun _ next => ih next⟩

theorem Keeps.follow {schedule : List Role} (keeps : run.Keeps schedule.length) :
    Twofold.Alike ⟨(run.one.follow schedule).2, (run.other.follow schedule).2,
      run.log ++ (run.one.follow schedule).1, run.others ++ (run.other.follow schedule).1⟩ := by
  induction schedule generalizing run with
  | nil =>
      rw [Exchange.follow, Exchange.follow, List.append_nil, List.append_nil]
      exact keeps
  | cons side schedule ih =>
      simp only [Exchange.follow, attempt, call_eq]
      cases keeps.2 side with
      | stuck one other =>
          have later := ih keeps.shorter
          simp only [one, other, Option.map_none, List.nil_append]
          exact later
      | turn one other next =>
          have later := ih next
          simp only [one, other, Option.map_some]
          simpa [after] using later

/-! ## Between messages -/

/-- Both runs have made the same calls, and each side has sent whole messages in both. -/
structure Even (run : Twofold κ) : Prop where
  calls : List.Forall₂ ExchangeEntry.Alike run.log run.others
  streams (side : Role) : Veiled (stream side run.log) (stream side run.others)
  parties (side : Role) : AlikeParties (run.one.party side) (run.other.party side)

omit [KeyStore κ] in
theorem Even.alike (even : run.Even) : run.Alike :=
  ⟨even.calls, fun side => ⟨(even.streams side).length_eq, [], [], by
    rw [List.append_nil, List.append_nil]
    exact even.streams side⟩, even.parties⟩

omit [KeyStore κ] in
theorem stream_silent {turn : PartyTurn κ SharedKey} (silent : turn.sent = none) (side any : Role)
    (log : List ExchangeEntry) :
    stream any (log ++ [⟨side, turn.answer, turn.sent⟩]) = stream any log := by
  rw [stream_concat, silent]
  dsimp only
  split <;> exact List.append_nil _

omit [KeyStore κ] in
theorem parties_after {turn other : PartyTurn κ SharedKey}
    (parties : ∀ side, AlikeParties (run.one.party side) (run.other.party side))
    (party : AlikeParties turn.party other.party) (any : Role) :
    AlikeParties ((run.after side turn other).one.party any)
      ((run.after side turn other).other.party any) := by
  rcases any.eq_or_peer side with rfl | rfl
  · rw [after, party_place, party_place]
    exact party
  · rw [after, party_place_peer, party_place_peer]
    exact parties side.peer

omit [KeyStore κ] in
theorem calls_after {turn other : PartyTurn κ SharedKey}
    (calls : List.Forall₂ ExchangeEntry.Alike run.log run.others)
    (answer : turn.answer = other.answer)
    (sent : turn.sent.map List.length = other.sent.map List.length) :
    List.Forall₂ ExchangeEntry.Alike (run.after side turn other).log
      (run.after side turn other).others :=
  List.rel_append calls (.cons ⟨rfl, answer, sent⟩ .nil)

omit [KeyStore κ] in
theorem Even.after (even : run.Even) {turn other : PartyTurn κ SharedKey}
    (answer : turn.answer = other.answer) (oneSilent : turn.sent = none)
    (otherSilent : other.sent = none) (party : AlikeParties turn.party other.party) :
    (run.after side turn other).Even := by
  refine ⟨calls_after even.calls answer (by rw [oneSilent, otherSilent]), fun any => ?_,
    parties_after even.parties party⟩
  rw [Twofold.after, stream_silent oneSilent, stream_silent otherSilent]
  exact even.streams any

theorem keeps_of_stuck (alike : run.Alike)
    (one : ∀ side, (run.one.party side).call run.one.nonces (run.one.frames side) = none)
    (other : ∀ side, (run.other.party side).call run.other.nonces (run.other.frames side) = none)
    (count : Nat) : run.Keeps count := by
  cases count with
  | zero => exact alike
  | succ count => exact ⟨alike, fun side => .stuck (one side) (other side)⟩

/-! ## Messages on their way -/

/-- A leg in both runs: the same message but for its proof, between sides that are the same. -/
structure Legs (leg again : Leg κ) : Prop where
  side : again.side = leg.side
  capacity : again.capacity = leg.capacity
  named : leg.message.name = again.message.name
  body : Veiled leg.message.body again.message.body
  steady : leg.Steady
  steadyAgain : again.Steady
  sender : again.sender.lifecycle = leg.sender.lifecycle
  settlement : leg.settlement.SameButKey again.settlement
  receiver : again.receiver.lifecycle = leg.receiver.lifecycle

variable {leg again : Leg κ} {bytes got left bytes' got' left' : Bytes} {late : Nat}

structure Conveys (leg again : Leg κ) (left left' : Bytes) (late : Nat) (run : Twofold κ) : Prop where
  one : ∃ bytes got, leg.Conveys bytes got left late run.one
  other : ∃ bytes got, again.Conveys bytes got left' late run.other
  sizes : (run.one.frames leg.side.peer).map List.length =
    (run.other.frames leg.side.peer).map List.length
  calls : List.Forall₂ ExchangeEntry.Alike run.log run.others
  sent : (stream leg.side run.log).length = (stream leg.side run.others).length
  own : Veiled (stream leg.side run.log ++ left) (stream leg.side run.others ++ left')
  heard : Veiled (stream leg.side.peer run.log) (stream leg.side.peer run.others)
  parties (side : Role) : AlikeParties (run.one.party side) (run.other.party side)

theorem Conveys.alike (conveys : run.Conveys leg again left left' late) : run.Alike := by
  refine ⟨conveys.calls, fun side => ?_, conveys.parties⟩
  rcases side.eq_or_peer leg.side with rfl | rfl
  · exact conveys.own.cut conveys.sent
  · exact ⟨conveys.heard.length_eq, [], [], by
      rw [List.append_nil, List.append_nil]
      exact conveys.heard⟩

theorem Conveys.length_left (conveys : run.Conveys leg again left left' late) :
    left.length = left'.length := by
  have whole := conveys.own.length_eq
  have sent := conveys.sent
  rw [List.length_append, List.length_append] at whole
  omega

structure Heard (leg again : Leg κ) (next : NextCall) (last last' : SharedKey)
    (later later' : Supplies κ) (answer : Answer) (run : Twofold κ) : Prop where
  one : leg.Heard next last later answer run.one
  other : again.Heard next last' later' answer run.other
  even : run.Even

omit [KeyStore κ] in
theorem alike_senders {base base' : SharedKey} {settlement settlement' : Settlement}
    {capacity capacity' : Nat} {keys keys' : κ} {party party' : Party κ SharedKey}
    (sender : Sender capacity base settlement keys left party)
    (sender' : Sender capacity' base' settlement' keys' left' party')
    (sized : left.length = left'.length) (lifecycle : base'.lifecycle = base.lifecycle)
    (same : settlement.SameButKey settlement') : AlikeParties party party' := by
  obtain ⟨mode, shown⟩ := same.apply base.lifecycle
  cases sender with
  | sending someLeft stands =>
      cases sender' with
      | sending _ stands' =>
          refine ⟨stands.next.trans stands'.next.symm,
            stands.outcome.trans stands'.outcome.symm, ?_⟩
          rw [stands.handler, stands'.handler]
          exact .of_eq (congrArg Lifecycle.face lifecycle.symm)
      | sent _ => exact absurd (List.length_eq_zero_iff.mp sized) someLeft
  | sent stands =>
      cases sender' with
      | sending someLeft _ => exact absurd (List.length_eq_zero_iff.mp sized.symm) someLeft
      | sent stands' =>
          refine ⟨?_, ?_, ?_⟩
          · rw [stands.next, stands'.next, lifecycle, mode]
          · rw [stands.outcome, stands'.outcome, lifecycle, mode]
          · rw [stands.handler, stands'.handler]
            have shown' : Face.SameButKey (base.lifecycle.apply settlement).1.face
                (base'.lifecycle.apply settlement').1.face := by
              rw [lifecycle]
              exact shown
            exact shown'

omit [KeyStore κ] in
theorem alike_of_stands {capacity capacity' : Nat} {handler handler' : SharedKey} {keys keys' : κ}
    {next : NextCall} {outcome : Option Answer} {party party' : Party κ SharedKey}
    (stands : Stands capacity handler keys next outcome party)
    (stands' : Stands capacity' handler' keys' next outcome party')
    (shown : handler.lifecycle.face.SameButKey handler'.lifecycle.face) :
    AlikeParties party party' := by
  refine ⟨stands.next.trans stands'.next.symm, stands.outcome.trans stands'.outcome.symm, ?_⟩
  rw [stands.handler, stands'.handler]
  exact shown

theorem alike_receivers {base base' : SharedKey} {capacity capacity' : Nat} {keys keys' : κ}
    {party party' : Party κ SharedKey} (receiver : Receiver capacity base keys got 0 party)
    (receiver' : Receiver capacity' base' keys' got' 0 party')
    (lifecycle : base'.lifecycle = base.lifecycle) : AlikeParties party party' := by
  cases receiver with
  | ready stands =>
      cases receiver' with
      | ready stands' =>
          exact alike_of_stands stands stands' (.of_eq (congrArg Lifecycle.face lifecycle.symm))

theorem Conveys.after_silent (conveys : run.Conveys leg again left left' late)
    {turn turn' : PartyTurn κ SharedKey} {late' : Nat} (answer : turn.answer = turn'.answer)
    (silent : turn.sent = none) (silent' : turn'.sent = none)
    (one : ∃ bytes got, leg.Conveys bytes got left late' (run.one.place turn leg.side.peer))
    (other : ∃ bytes got, again.Conveys bytes got left' late' (run.other.place turn' leg.side.peer))
    (sizes : turn.queue.map List.length = turn'.queue.map List.length)
    (party : AlikeParties turn.party turn'.party) :
    (run.after leg.side.peer turn turn').Conveys leg again left left' late' := by
  have calls : List.Forall₂ ExchangeEntry.Alike (run.after leg.side.peer turn turn').log _ :=
    calls_after conveys.calls answer (by rw [silent, silent'])
  have parties (any : Role) : AlikeParties ((run.after leg.side.peer turn turn').one.party any)
      ((run.after leg.side.peer turn turn').other.party any) :=
    parties_after conveys.parties party any
  refine ⟨one, other, ?_, calls, ?_, ?_, ?_, parties⟩
  · rw [after, frames_place, frames_place]
    exact sizes
  all_goals rw [after, stream_silent silent, stream_silent silent']
  · exact conveys.sent
  · exact conveys.own
  · exact conveys.heard

theorem Conveys.even (conveys : run.Conveys leg again [] [] late) : run.Even := by
  refine ⟨conveys.calls, fun side => ?_, conveys.parties⟩
  rcases side.eq_or_peer leg.side with rfl | rfl
  · have own := conveys.own
    rwa [List.append_nil, List.append_nil] at own
  · exact conveys.heard

omit [KeyStore κ] in
theorem length_ite {first second : Bytes} (sized : first.length = second.length) :
    (if first = [] then none else some first).map List.length =
      (if second = [] then none else some second).map List.length := by
  by_cases nothing : first = []
  · subst nothing
    have noneSecond := List.length_eq_zero_iff.mp sized.symm
    rw [noneSecond]
  · have someSecond : second ≠ [] := fun noneSecond =>
      nothing (List.length_eq_zero_iff.mp (by rw [sized, noneSecond, List.length_nil]))
    rw [if_neg nothing, if_neg someSecond, Option.map_some, Option.map_some, sized]

theorem Conveys.calls_sender (legs : Legs leg again)
    (conveys : run.Conveys leg again left left' late) :
    Calls (fun next => ∃ left left', next.Conveys leg again left left' late) run leg.side := by
  have leftEq := conveys.length_left
  obtain ⟨⟨bytes, got, one⟩, ⟨bytes', got', other⟩, sizes, calls, sent, own, heard, parties⟩ :=
    conveys
  by_cases someLeft : left = []
  · subst someLeft
    obtain rfl : left' = [] := List.length_eq_zero_iff.mp leftEq.symm
    refine .stuck ?_ ?_
    · rw [one.back, one.sender.call_of_sent]
    · rw [← legs.side, other.back, other.sender.call_of_sent]
  · have someLeft' : left' ≠ [] := fun nothing =>
      someLeft (List.length_eq_zero_iff.mp (by rw [leftEq, nothing, List.length_nil]))
    obtain ⟨turn, called, answer, said, one⟩ := one.call_sender legs.steady someLeft
    obtain ⟨turn', called', answer', said', other⟩ :=
      other.call_sender legs.steadyAgain someLeft'
    rw [legs.side] at called' other
    rw [legs.capacity] at answer' said' other
    have mode : (again.sender.lifecycle.apply again.settlement).2 =
        (leg.sender.lifecycle.apply leg.settlement).2 := by
      rw [legs.sender]
      exact (legs.settlement.apply leg.sender.lifecycle).1.symm
    have takenEq : (left.take leg.capacity).length = (left'.take leg.capacity).length := by
      rw [List.length_take, List.length_take, leftEq]
    have droppedEq : (left.drop leg.capacity).length = (left'.drop leg.capacity).length := by
      rw [List.length_drop, List.length_drop, leftEq]
    have saidEq : turn.sent.map List.length = turn'.sent.map List.length := by
      rw [said, said']
      exact length_ite takenEq
    have gotFrom (turn : PartyTurn κ SharedKey) {bytes : Bytes} (log : List ExchangeEntry)
        (said : turn.sent = if bytes = [] then none else some bytes) :
        stream leg.side (log ++ [⟨leg.side, turn.answer, turn.sent⟩]) =
          stream leg.side log ++ bytes := by
      rw [stream_concat, if_pos rfl, said]
      split
      · rename_i nothing
        rw [nothing]
        rfl
      · rfl
    have others (turn : PartyTurn κ SharedKey) (log : List ExchangeEntry) :
        stream leg.side.peer (log ++ [⟨leg.side, turn.answer, turn.sent⟩]) =
          stream leg.side.peer log := by
      rw [stream_concat, if_neg (by cases leg.side <;> simp [Role.peer]), List.append_nil]
    have party : AlikeParties turn.party turn'.party := by
      have sender := one.sender
      have sender' := other.sender
      rw [party_place] at sender
      rw [legs.side, party_place] at sender'
      exact alike_senders sender sender' droppedEq legs.sender legs.settlement
    refine .turn called called' ⟨left.drop leg.capacity, left'.drop leg.capacity,
      ⟨bytes, got, one⟩, ⟨bytes', got', other⟩, ?_, ?_, ?_, ?_, ?_, parties_after parties party⟩
    · rw [after, frames_place_peer, frames_place_peer, List.map_append, List.map_append, sizes,
        ← Option.toList_map, ← Option.toList_map, saidEq]
    · refine calls_after calls ?_ saidEq
      rw [answer, answer', leftEq, mode]
    · rw [after, gotFrom turn _ said, gotFrom turn' _ said', List.length_append,
        List.length_append, sent, takenEq]
    · rw [after, gotFrom turn _ said, gotFrom turn' _ said', List.append_assoc,
        List.append_assoc, List.take_append_drop, List.take_append_drop]
      exact own
    · rw [after, others, others]
      exact heard

theorem Conveys.alike_ready {turn turn' : PartyTurn κ SharedKey} (legs : Legs leg again)
    (one : leg.Conveys bytes got left 0 (run.one.place turn leg.side.peer))
    (other : again.Conveys bytes' got' left' 0 (run.other.place turn' leg.side.peer)) :
    AlikeParties turn.party turn'.party := by
  have receiver := one.receiver
  have receiver' := other.receiver
  rw [party_place] at receiver
  rw [legs.side, party_place] at receiver'
  exact alike_receivers receiver receiver' legs.receiver

theorem Conveys.calls_late (conveys : run.Conveys leg again left left' 1) (legs : Legs leg again) :
    Calls (fun next => next.Conveys leg again left left' 0) run leg.side.peer := by
  obtain ⟨bytes, got, one⟩ := conveys.one
  obtain ⟨bytes', got', other⟩ := conveys.other
  obtain ⟨turn, called, answered, silent, queue, next⟩ := one.call_late
  obtain ⟨turn', called', answered', silent', queue', next'⟩ := other.call_late
  rw [legs.side] at called' queue' next'
  refine .turn called called' (conveys.after_silent (answered.trans answered'.symm) silent silent'
    ⟨bytes, _, next⟩ ⟨bytes', _, next'⟩ ?_ (alike_ready legs next next'))
  rw [queue, queue']
  exact conveys.sizes

variable {frame frame' : Bytes} {rest rest' : List Bytes}

theorem Conveys.calls_frame (conveys : run.Conveys leg again left left' 0) (legs : Legs leg again)
    (queue : run.one.frames leg.side.peer = frame :: rest)
    (queue' : run.other.frames again.side.peer = frame' :: rest')
    (sizes : rest.map List.length = rest'.map List.length) (more : rest.flatten ++ left ≠ [])
    (more' : rest'.flatten ++ left' ≠ []) :
    Calls (fun next => next.Conveys leg again left left' 0) run leg.side.peer := by
  obtain ⟨bytes, got, one⟩ := conveys.one
  obtain ⟨bytes', got', other⟩ := conveys.other
  obtain ⟨turn, called, answered, silent, leftQueue, next⟩ := one.call_frame legs.steady queue more
  obtain ⟨turn', called', answered', silent', leftQueue', next'⟩ :=
    other.call_frame legs.steadyAgain queue' more'
  rw [legs.side] at called' next'
  refine .turn called called' (conveys.after_silent (answered.trans answered'.symm) silent silent'
    ⟨bytes, _, next⟩ ⟨bytes', _, next'⟩ ?_ (alike_ready legs next next'))
  rw [leftQueue, leftQueue']
  exact sizes

variable {last last' : SharedKey} {later later' : Supplies κ} {answer : Answer}

theorem Conveys.calls_last (conveys : run.Conveys leg again [] [] 0) (legs : Legs leg again)
    (queue : run.one.frames leg.side.peer = [frame])
    (queue' : run.other.frames again.side.peer = [frame'])
    (handled : leg.receiver.onMessage leg.message ⟨leg.nonces, leg.receiverKeys⟩ =
      (last, later, answer))
    (handled' : again.receiver.onMessage again.message ⟨again.nonces, again.receiverKeys⟩ =
      (last', later', answer))
    (more : answer ≠ .ok .needData)
    (shown : (last.settle answer).lifecycle.face.SameButKey (last'.settle answer).lifecycle.face) :
    Calls (fun next => next.Heard leg again .receive last last' later later' answer) run
      leg.side.peer := by
  obtain ⟨bytes, got, one⟩ := conveys.one
  obtain ⟨bytes', got', other⟩ := conveys.other
  obtain ⟨turn, called, answered, silent, heard⟩ := one.call_last legs.steady queue handled more
  obtain ⟨turn', called', answered', silent', heard'⟩ :=
    other.call_last legs.steadyAgain queue' handled' more
  rw [legs.side] at called' heard'
  have party : AlikeParties turn.party turn'.party := by
    have stands := heard.receiver
    have stands' := heard'.receiver
    rw [party_place] at stands
    rw [legs.side, party_place] at stands'
    exact alike_of_stands stands stands' shown
  exact .turn called called' ⟨heard, heard',
    conveys.even.after (answered.trans answered'.symm) silent silent' party⟩

theorem Conveys.calls_receiver (legs : Legs leg again)
    (handled : leg.receiver.onMessage leg.message ⟨leg.nonces, leg.receiverKeys⟩ =
      (last, later, answer))
    (handled' : again.receiver.onMessage again.message ⟨again.nonces, again.receiverKeys⟩ =
      (last', later', answer))
    (more : answer ≠ .ok .needData)
    (shown : (last.settle answer).lifecycle.face.SameButKey (last'.settle answer).lifecycle.face)
    (conveys : run.Conveys leg again left left' late) :
    Calls (fun next => (∃ late, next.Conveys leg again left left' late) ∨
      next.Heard leg again .receive last last' later later' answer) run leg.side.peer := by
  obtain ⟨bytes, got, one⟩ := conveys.one
  obtain ⟨bytes', got', other⟩ := conveys.other
  have leftEq := conveys.length_left
  have sizes := conveys.sizes
  rcases one.receiver.punctual with rfl | rfl
  · rw [← legs.side] at sizes
    cases queue : run.one.frames leg.side.peer with
    | nil =>
        have queue' : run.other.frames again.side.peer = [] := by
          rw [legs.side, queue] at sizes
          rw [legs.side]
          exact List.map_eq_nil_iff.mp sizes.symm
        refine .stuck (one.call_waiting queue) ?_
        rw [← legs.side]
        exact other.call_waiting queue'
    | cons frame rest =>
        cases queue' : run.other.frames again.side.peer with
        | nil =>
            rw [legs.side, queue, ← legs.side, queue'] at sizes
            cases sizes
        | cons frame' rest' =>
            rw [legs.side, queue, ← legs.side, queue', List.map_cons, List.map_cons,
              List.cons.injEq] at sizes
            have restEq : (rest.flatten ++ left).length = (rest'.flatten ++ left').length := by
              rw [List.length_append, List.length_append, List.length_flatten,
                List.length_flatten, sizes.2, leftEq]
            by_cases complete : rest.flatten ++ left = []
            · have complete' : rest'.flatten ++ left' = [] :=
                List.length_eq_zero_iff.mp (by rw [← restEq, complete, List.length_nil])
              obtain ⟨nothing, rfl⟩ := List.append_eq_nil_iff.mp complete
              obtain ⟨nothing', rfl⟩ := List.append_eq_nil_iff.mp complete'
              obtain rfl := one.rest_eq_nil queue nothing
              obtain rfl := other.rest_eq_nil queue' nothing'
              exact (conveys.calls_last legs queue queue' handled handled' more shown).imp
                fun _ heard => Or.inr heard
            · have complete' : rest'.flatten ++ left' ≠ [] := fun nothing =>
                complete (List.length_eq_zero_iff.mp (by rw [restEq, nothing, List.length_nil]))
              exact (conveys.calls_frame legs queue queue' sizes.2 complete complete').imp
                fun _ conveys => Or.inl ⟨0, conveys⟩
  · exact (conveys.calls_late legs).imp fun _ conveys => Or.inl ⟨0, conveys⟩

/-- Runs with a message on its way are alike for good if they are so once it has been heard. -/
theorem Conveys.keeps (legs : Legs leg again)
    (handled : leg.receiver.onMessage leg.message ⟨leg.nonces, leg.receiverKeys⟩ =
      (last, later, answer))
    (handled' : again.receiver.onMessage again.message ⟨again.nonces, again.receiverKeys⟩ =
      (last', later', answer))
    (more : answer ≠ .ok .needData)
    (shown : (last.settle answer).lifecycle.face.SameButKey (last'.settle answer).lifecycle.face)
    (goesOn : ∀ (count : Nat) (run : Twofold κ),
      run.Heard leg again .receive last last' later later' answer → run.Keeps count)
    (conveys : run.Conveys leg again left left' late) (count : Nat) : run.Keeps count := by
  induction count generalizing run left left' late with
  | zero => exact conveys.alike
  | succ count ih =>
      refine ⟨conveys.alike, fun side => ?_⟩
      rcases side.eq_or_peer leg.side with rfl | rfl
      · refine (conveys.calls_sender legs).imp ?_
        rintro next ⟨left, left', conveys⟩
        exact ih conveys
      · refine (conveys.calls_receiver legs handled handled' more shown).imp ?_
        rintro next (⟨late, conveys⟩ | heard)
        · exact ih conveys
        · exact goesOn count next heard

end Twofold

end Exchange

end Parley
