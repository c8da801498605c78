import Parley.Proofs.BuiltIn.Contract
import Parley.Proofs.Negotiation.Routes
import Parley.Proofs.Negotiation.Steps

/-!
Drivers keep the built-in handlers to their contract. A driver calls a handler in one way, and only
until it has ended; and since the envelope alone delegates, and never to itself, one delegation is
all that a negotiation can come to.
-/

namespace Parley

open Lifecycle

def Phase.chain {σ : Type} (protocol : String) : Phase σ → List String
  | .calling loop => loop.chain
  | .obeying loop _ => loop.chain
  | .stopped _ chain _ => chain
  | .claiming next => next.chain protocol
  | _ => [protocol]

/-- A protocol with those that a negotiation came to before it: at most the envelope's. -/
inductive Linked (protocol : String) : List String → Prop
  | alone : Linked protocol [protocol]
  | led (other : protocol ≠ Envelope.protocol) : Linked protocol [Envelope.protocol, protocol]

theorem Linked.short {protocol : String} {chain : List String} (linked : Linked protocol chain) :
    chain.length ≤ 2 := by
  cases linked <;> simp

theorem Linked.last {protocol : String} {chain : List String} (linked : Linked protocol chain) :
    chain.getLast? = some protocol := by
  cases linked <;> rfl

theorem Linked.envelope {chain : List String} (linked : Linked Envelope.protocol chain) :
    chain = [Envelope.protocol] := by
  cases linked with
  | alone => rfl
  | led other => exact absurd rfl other

def Proper : Except Fault Outcome → Prop
  | .error fault => fault.Ordinary
  | .ok outcome => ∀ protocol credential, outcome = .success protocol credential →
      credential.protocol = protocol

namespace Negotiation

/-- The phases whose outcome is that of a handler which has stopped at a mode. -/
inductive Concluding {σ : Type} (handler : σ) (mode : Mode) : Phase σ → Prop
  | stopped (chain : List String) (other : mode ≠ .delegated) :
      Concluding handler mode (.stopped handler chain mode)
  | tookOver (supported : mode ≠ .notSupported) (other : mode ≠ .delegated) :
      Concluding handler mode (.tookOverFree handler mode)

variable {κ : Type} [KeyStore κ] {negotiation now : Negotiation BuiltIn} {supplies : Supplies κ}
  {phase : Phase BuiltIn} {protocol : String} {chain : List String} {handler : BuiltIn}
  {loop : BlobLoop BuiltIn} {mode : Mode} {kind : ExchangeKind}

structure Holding (chain : List String) (handler : BuiltIn) : Prop where
  honest : handler.Honest
  linked : Linked (face handler).protocol chain

/-- The phases that a negotiation of a protocol comes to with handlers that keep their contract. -/
inductive Sound (protocol : String) : Phase BuiltIn → Prop
  | opening : Sound protocol .opening
  | claiming {next : Phase BuiltIn} (sound : Sound protocol next)
      (goesOn : ∀ result, next ≠ .over result) : Sound protocol (.claiming next)
  | calling {loop : BlobLoop BuiltIn} (holding : Holding loop.chain loop.handler)
      (still : loop.handler.lifecycle.Open .blob) : Sound protocol (.calling loop)
  | obeying {loop : BlobLoop BuiltIn} {mode : Mode} (holding : Holding loop.chain loop.handler)
      (fares : Fares .blob loop.handler.lifecycle (.ok mode)) : Sound protocol (.obeying loop mode)
  | stopped {handler : BuiltIn} {chain : List String} {mode : Mode} {kind : ExchangeKind}
      (holding : Holding chain handler) (fares : Fares kind handler.lifecycle (.ok mode))
      (halts : Halts mode) : Sound protocol (.stopped handler chain mode)
  | takingOver {handler : BuiltIn} {fresh : Bool} (holding : Holding [protocol] handler)
      (still : handler.lifecycle.Open .takeover)
      (engaged : fresh = false → handler.lifecycle.Engaged .takeover) :
      Sound protocol (.takingOver handler fresh)
  | tookOver {handler : BuiltIn} {mode : Mode} (holding : Holding [protocol] handler)
      (fares : Fares .takeover handler.lifecycle (.ok mode)) (stops : mode.goesOn = false) :
      Sound protocol (.tookOver handler mode)
  | tookOverFree {handler : BuiltIn} {mode : Mode} (holding : Holding [protocol] handler)
      (fares : Fares .takeover handler.lifecycle (.ok mode)) (halts : Halts mode) :
      Sound protocol (.tookOverFree handler mode)
  | over {result : Except Fault Outcome} (proper : Proper result) : Sound protocol (.over result)

/-- What comes next is sound, and a success is that of the last protocol so far. -/
structure Onward (protocol : String) (chain : List String) (next : Phase BuiltIn) : Prop where
  sound : Sound protocol next
  last {named : String} {credential : Credential}
    (succeeds : next = .over (.ok (.success named credential))) : chain.getLast? = some named

theorem Sound.onward {next : Phase BuiltIn} (sound : Sound protocol next)
    (goesOn : ∀ result, next ≠ .over (.ok result)) : Onward protocol chain next :=
  ⟨sound, fun succeeds => absurd succeeds (goesOn _)⟩

theorem onward_fault {fault : Fault} (ordinary : fault.Ordinary) :
    Onward protocol chain (.over (.error fault)) :=
  Sound.onward (.over ordinary) (by simp)

theorem onward_noIdentity (handler : BuiltIn) :
    Onward protocol chain (conclude handler .noIdentity) := by
  refine ⟨.over ?_, ?_⟩
  · rintro _ _ ⟨⟩
  · rintro _ _ ⟨⟩

/-! ## Handlers that stop -/

theorem eq_noIdentity (goes : mode.isFinal = false) (supported : mode ≠ .notSupported)
    (more : mode ≠ .noMoreData) (halts : Halts mode) : mode = .noIdentity := by
  cases mode with
  | noIdentity => rfl
  | notSupported => exact absurd rfl supported
  | noMoreData => exact absurd rfl more
  | success => cases goes
  | failed => cases goes
  | delegated => cases goes
  | _ => exact halts.elim

theorem fares_concluding (fares : Fares kind handler.lifecycle (.ok mode)) (halts : Halts mode)
    (other : mode ≠ .delegated) :
    mode.isTerminal = true ∧ (mode = .success → (face handler).credential.isSome) := by
  cases fares with
  | going goes supported more _ =>
      obtain rfl := eq_noIdentity goes supported more halts
      exact ⟨rfl, nofun⟩
  | succeeded shown _ =>
      rw [BuiltIn.face_lifecycle] at shown
      exact ⟨rfl, fun _ => by rw [shown]; rfl⟩
  | failed => exact ⟨rfl, nofun⟩
  | declined => exact ⟨rfl, nofun⟩
  | delegated _ _ _ => exact absurd rfl other

theorem onward_conclude (linked : Linked (face handler).protocol chain)
    (fares : Fares kind handler.lifecycle (.ok mode)) (halts : Halts mode)
    (other : mode ≠ .delegated) : Onward protocol chain (conclude handler mode) := by
  have unsuccessful {outcome : Outcome} (fails : outcome.isSuccess = false) :
      Onward protocol chain (.over (.ok outcome)) := by
    refine ⟨.over ?_, ?_⟩
    · rintro _ _ rfl
      cases fails
    · rintro _ _ ⟨⟩
      cases fails
  cases fares with
  | going goes supported more _ =>
      obtain rfl := eq_noIdentity goes supported more halts
      exact unsuccessful rfl
  | @succeeded credential shown own =>
      rw [BuiltIn.face_lifecycle] at shown own
      have concluded : (conclude handler .success : Phase BuiltIn) =
          .over (.ok (.success (face handler).protocol credential)) := by
        rw [conclude, Outcome.conclude, shown]
      rw [concluded]
      refine ⟨.over ?_, ?_⟩
      · rintro _ _ ⟨⟩
        exact own
      · rintro _ _ ⟨⟩
        exact linked.last
  | failed => exact unsuccessful rfl
  | declined => exact unsuccessful rfl
  | delegated _ _ _ => exact absurd rfl other

theorem Sound.concluding (sound : Sound protocol phase)
    (concluding : Concluding handler mode phase) :
    mode.isTerminal = true ∧ (mode = .success → (face handler).credential.isSome) := by
  cases concluding with
  | stopped chain other =>
      cases sound with
      | stopped _ fares halts => exact fares_concluding fares halts other
  | tookOver _ other =>
      cases sound with
      | tookOverFree _ fares halts => exact fares_concluding fares halts other

theorem Sound.short (sound : Sound protocol phase) : (phase.chain protocol).length ≤ 2 := by
  induction sound with
  | claiming _ _ ih => exact ih
  | calling holding _ => exact holding.linked.short
  | obeying holding _ => exact holding.linked.short
  | stopped holding _ _ => exact holding.linked.short
  | _ => exact Nat.le_succ 1

/-! ## Steps -/

structure Steps (protocol : String) (chain : List String) (advance : Advance (Supplies κ) BuiltIn) :
    Prop where
  furnished : advance.registry.Furnished
  onward {next : Phase BuiltIn} (leads : advance.action.Leads next) : Onward protocol chain next

omit [KeyStore κ] in
theorem steps_goOn {registry : Registry BuiltIn} (furnished : registry.Furnished)
    (onward : Onward protocol chain phase) :
    Steps protocol chain (⟨registry, supplies, goOn phase⟩ : Advance (Supplies κ) BuiltIn) := by
  refine ⟨furnished, fun leads => ?_⟩
  obtain rfl := leads_goOn_iff.mp leads
  exact onward

theorem bound_begin {start : Start} (made : BuiltIn.Made handler)
    (accepted : (begin start supplies handler).accepted = true) :
    BuiltIn.Bound handler (begin start supplies handler).handler := by
  cases start with
  | live identity role => exact made.init accepted
  | declared attributes => exact made.initFrom accepted

theorem steps_enter (furnished : now.registry.Furnished) {after : BuiltIn → Phase BuiltIn}
    (sound : ∀ bound : BuiltIn, Holding [now.protocol] bound → bound.lifecycle.Ready →
      Sound now.protocol (after bound))
    (goesOn : ∀ bound result, after bound ≠ .over result) :
    Steps now.protocol chain (now.enter after supplies) := by
  have later := furnished.create now.protocol
  rw [enter, prepare_eq]
  rcases created : (now.registry.create now.protocol).1 with fault | handler
  · exact steps_goOn later (onward_fault (Registry.ordinary_create created))
  · refine steps_goOn later ?_
    split
    · rename_i accepted
      obtain ⟨honest, ready, stated⟩ := bound_begin (furnished.made created) accepted
      have named := stated.trans (Registry.protocol_of_create created)
      refine (sound _ ⟨honest, ?_⟩ ready).onward fun _ => goesOn _ _
      rw [named]
      exact .alone
    · exact onward_noIdentity _

omit [KeyStore κ] in
theorem linked_heir (holding : Holding chain handler)
    (fares : Fares kind handler.lifecycle (.ok .delegated)) :
    chain = [Envelope.protocol] ∧ (face handler).protocol = Envelope.protocol ∧
      (face handler).info.getD "" ≠ Envelope.protocol := by
  cases fares with
  | delegated fromEnvelope named other =>
      rw [BuiltIn.face_lifecycle] at fromEnvelope named
      have linked := holding.linked
      rw [fromEnvelope] at linked
      exact ⟨linked.envelope, fromEnvelope, by rwa [named]⟩
  | going goes _ _ _ => cases goes

theorem steps_follow (furnished : now.registry.Furnished) (holding : Holding chain handler)
    (fares : Fares kind handler.lifecycle (.ok .delegated)) :
    Steps now.protocol chain (now.follow handler chain supplies) := by
  obtain ⟨rfl, fromEnvelope, other⟩ := linked_heir holding fares
  rw [follow]
  split
  · rename_i fault refused
    refine steps_goOn furnished (onward_fault ?_)
    simp only [successor, fromEnvelope, if_neg other] at refused
    split at refused
    · rename_i member
      exact absurd (by simpa using member) other
    · split at refused
      · cases refused
        trivial
      · split at refused
        · cases refused
          trivial
        · cases refused
  · rename_i name followed
    have named : name = (face handler).info.getD "" := by
      simp only [successor] at followed
      split at followed
      · cases followed
      · split at followed
        · cases followed
        · split at followed
          · cases followed
          · split at followed <;> cases followed
            rfl
    rw [← named] at other
    dsimp only
    split
    · exact steps_goOn furnished (onward_noIdentity _)
    · rename_i role _
      have later := furnished.create name
      have createdEq : now.registry.create name =
          ((now.registry.create name).1, (now.registry.create name).2) := rfl
      rw [createdEq]
      rcases created : (now.registry.create name).1 with fault | next
      · exact steps_goOn later (onward_fault (Registry.ordinary_create created))
      · refine steps_goOn later ?_
        split
        · rename_i accepted
          obtain ⟨honest, ready, stated⟩ := (furnished.made created).init accepted
          have stated := stated.trans (Registry.protocol_of_create created)
          refine (Sound.calling ⟨honest, ?_⟩ (ready.open .blob)).onward (by simp)
          rw [stated]
          exact .led other
        · exact onward_noIdentity _

theorem steps_calling (holding : Holding loop.chain loop.handler)
    (still : loop.handler.lifecycle.Open .blob)
    (leads : (closeTurn loop (turnOf loop supplies)).Leads phase) :
    Onward protocol loop.chain phase := by
  have behaves : Behaves .blob loop.handler.lifecycle (turnOf loop supplies).handler.lifecycle
      (turnOf loop supplies).handler.Honest (turnOf loop supplies).answer := by
    rw [turnOf]
    split
    · exact holding.honest.produce still
    · exact holding.honest.consume still
  cases closed_of_leads leads with
  | broken answered =>
      have fares := behaves.fares
      rw [answered] at fares
      cases fares with
      | broken ordinary => exact onward_fault ordinary
  | unsent sent => exact onward_fault (Frame.Fails.sending sent).ordinary
  | obeying answered =>
      have fares := behaves.fares
      have protocolEq := behaves.protocol
      rw [answered] at fares
      rw [BuiltIn.face_lifecycle, BuiltIn.face_lifecycle] at protocolEq
      refine (Sound.obeying ⟨behaves.honest answered, ?_⟩ fares).onward (by simp)
      have linked := holding.linked
      rwa [← protocolEq] at linked

theorem steps_obeying (holding : Holding loop.chain loop.handler)
    (fares : Fares .blob loop.handler.lifecycle (.ok mode))
    (leads : (obey loop mode).Leads phase) : Onward protocol loop.chain phase := by
  have going (goes : mode.isFinal = false) (supported : mode ≠ .notSupported) :
      loop.handler.lifecycle.Open .blob := by
    cases fares with
    | going _ _ _ engaged => exact engaged.open
    | declined => exact absurd rfl supported
    | _ => cases goes
  have called (call : Call) (blob : Blob) (still : loop.handler.lifecycle.Open .blob) :
      Onward protocol loop.chain (.calling { loop with call, blob }) := by
    refine Sound.onward ?_ (by simp)
    exact .calling ⟨holding.honest, holding.linked⟩ still
  cases obeyed_of_leads leads with
  | unread received => exact onward_fault (Frame.Fails.receiving received).ordinary
  | reads frame => exact called .consume _ (going rfl (by simp))
  | writes => exact called .produce loop.blob (going rfl (by simp))
  | again => exact called loop.call loop.blob (going rfl (by simp))
  | waits seconds => exact called loop.call loop.blob (going rfl (by simp))
  | stops halts => exact (Sound.stopped holding fares halts).onward (by simp)

theorem onward_afterStretch {next : BuiltIn} {given : Option Answer}
    (linked : Linked (face handler).protocol [protocol])
    (unfolds : Unfolds handler.lifecycle next.lifecycle next.Honest given) :
    Onward protocol chain (afterStretch next given) := by
  have holding (protocolEq : next.lifecycle.face.protocol = handler.lifecycle.face.protocol)
      (honest : next.Honest) : Holding [protocol] next := by
    rw [BuiltIn.face_lifecycle, BuiltIn.face_lifecycle] at protocolEq
    exact ⟨honest, by rwa [protocolEq]⟩
  cases unfolds with
  | onward protocolEq _ honest engaged =>
      refine Sound.onward ?_ (by simp [afterStretch])
      exact .takingOver (holding protocolEq honest) engaged.open fun _ => engaged
  | @answered answer behaves stops =>
      rcases answer with fault | mode
      · cases behaves.fares with
        | broken ordinary => exact onward_fault ordinary
      · refine Sound.onward ?_ (by simp [afterStretch])
        exact .tookOver (holding behaves.protocol (behaves.honest rfl)) behaves.fares
          (stops mode rfl)

theorem steps_takingOver {fresh : Bool} (holding : Holding [protocol] handler)
    (still : handler.lifecycle.Open .takeover)
    (engaged : fresh = false → handler.lifecycle.Engaged .takeover)
    (leads : (takeOver handler fresh supplies).2.Leads phase) : Onward protocol chain phase := by
  obtain ⟨next, given, talked, rfl⟩ := stretch_of_leads leads
  refine onward_afterStretch holding.linked ?_
  cases fresh with
  | true => exact holding.honest.takeOver still talked
  | false => exact holding.honest.carryOn (engaged rfl) talked

theorem Sound.steps (furnished : now.registry.Furnished) (sound : Sound now.protocol now.phase) :
    Steps now.protocol (now.phase.chain now.protocol) (now.advance supplies) := by
  generalize shown : now.phase = phase at sound
  cases sound with
  | opening =>
      rw [advance, shown]
      dsimp only
      split
      · refine steps_enter furnished (fun bound holding ready => ?_) (by simp [loopOf])
        exact .calling holding (ready.open .blob)
      · refine steps_enter furnished (fun bound holding ready => ?_) (by simp)
        exact .claiming (.takingOver holding (ready.open .takeover) (by rintro ⟨⟩)) (by simp)
  | @claiming next sound goes_on =>
      rw [advance, shown]
      refine ⟨furnished, fun leads => ?_⟩
      cases leads with
      | lease _ granted =>
          dsimp only
          split
          · exact sound.onward fun _ => goes_on _
          · exact onward_fault trivial
  | @calling loop holding still =>
      rw [advance_calling supplies shown]
      exact ⟨furnished, steps_calling holding still⟩
  | obeying holding fares =>
      rw [advance_obeying supplies shown]
      exact ⟨furnished, steps_obeying holding fares⟩
  | @stopped handler chain mode _ holding fares halts =>
      by_cases delegated : mode = .delegated
      · subst delegated
        rw [advance, shown]
        exact steps_follow furnished holding fares
      · rw [advance_stopped supplies shown delegated]
        exact steps_goOn furnished (onward_conclude holding.linked fares halts delegated)
  | takingOver holding still engaged =>
      rw [advance, shown]
      exact ⟨furnished, steps_takingOver holding still engaged⟩
  | @tookOver handler mode holding fares stops =>
      rw [advance, shown]
      cases mode with
      | wait seconds =>
          refine ⟨furnished, fun leads => ?_⟩
          cases leads
          cases fares with
          | going _ _ _ engaged =>
              refine Sound.onward ?_ (by simp)
              exact .takingOver holding engaged.open (by rintro ⟨⟩)
      | needData => cases stops
      | pendingData => cases stops
      | «continue» => cases stops
      | _ =>
          refine ⟨furnished, fun leads => ?_⟩
          cases leads
          exact Sound.onward (.tookOverFree holding fares trivial) (by simp)
  | @tookOverFree handler mode holding fares halts =>
      by_cases declined : mode = .notSupported
      · subst declined
        rw [advance, shown]
        refine steps_enter furnished (fun bound holding ready => ?_) (by simp)
        exact .claiming (.calling holding (ready.open .blob)) (by simp [loopOf])
      · by_cases delegated : mode = .delegated
        · subst delegated
          rw [advance, shown]
          refine steps_goOn furnished (Sound.onward ?_ (by simp))
          exact .claiming (.stopped holding fares trivial) (by simp)
        · rw [advance_tookOverFree supplies shown declined delegated]
          exact steps_goOn furnished (onward_conclude holding.linked fares halts delegated)
  | «over» proper =>
      rw [advance, shown]
      refine ⟨furnished, fun leads => ?_⟩
      cases leads

/-! ## Whole negotiations -/

/--
What a negotiation may become, whatever the channel answers and whoever leases it, and whatever the
keys and nonces are each time.
-/
inductive Becomes (κ : Type) [KeyStore κ] (negotiation : Negotiation BuiltIn) :
    Negotiation BuiltIn → Prop
  | begin : Becomes κ negotiation negotiation
  | step {now : Negotiation BuiltIn} {next : Phase BuiltIn} (becomes : Becomes κ negotiation now)
      (supplies : Supplies κ) (leads : (now.advance supplies).action.Leads next) :
      Becomes κ negotiation (now.proceed (now.advance supplies).registry next)

theorem Course.becomes {later : Supplies κ} (course : Course negotiation supplies now later) :
    Becomes κ negotiation now := by
  induction course with
  | begin => exact .begin
  | step _ leads ih => exact ih.step _ leads

theorem Becomes.sound (furnished : negotiation.registry.Furnished)
    (opening : negotiation.phase = .opening) (becomes : Becomes κ negotiation now) :
    now.registry.Furnished ∧ Sound now.protocol now.phase := by
  induction becomes with
  | begin =>
      refine ⟨furnished, ?_⟩
      rw [opening]
      exact .opening
  | @step now next _ supplies leads ih =>
      have steps : Steps _ _ (now.advance supplies) := ih.2.steps ih.1
      exact ⟨steps.furnished, (steps.onward leads).sound⟩

/--
What is kept wherever a negotiation may be: it has followed one delegation at most, a handler whose
outcome counts has stopped at a terminal mode, and if that is success it shows a credential. A fault
that ends the negotiation is ordinary, and a success is that of the last protocol by then, with a
credential for it.
-/
structure Kept (κ : Type) [KeyStore κ] (now : Negotiation BuiltIn) : Prop where
  short : (now.phase.chain now.protocol).length ≤ 2
  concludes {handler : BuiltIn} {mode : Mode} (concluding : Concluding handler mode now.phase) :
    mode.isTerminal = true ∧ (mode = .success → (face handler).credential.isSome)
  faults {supplies : Supplies κ} {fault : Fault}
    (leads : (now.advance supplies).action.Leads (.over (.error fault))) : fault.Ordinary
  succeeds {supplies : Supplies κ} {protocol : String} {credential : Credential}
    (leads : (now.advance supplies).action.Leads (.over (.ok (.success protocol credential)))) :
    credential.protocol = protocol ∧ (now.phase.chain now.protocol).getLast? = some protocol

theorem Sound.kept (furnished : now.registry.Furnished) (sound : Sound now.protocol now.phase) :
    Kept κ now := by
  refine ⟨sound.short, sound.concluding, ?_, ?_⟩
  · intro supplies fault leads
    cases ((sound.steps furnished).onward leads).sound with
    | «over» proper => exact proper
  · intro supplies protocol credential leads
    have onward := (sound.steps furnished).onward leads
    refine ⟨?_, onward.last rfl⟩
    cases onward.sound with
    | «over» proper => exact proper _ _ rfl

theorem Course.over {result : Except Fault Outcome} {later : Supplies κ}
    (course : Course negotiation supplies now later) (opening : negotiation.phase = .opening)
    (ended : now.phase = .over result) :
    ∃ last : Negotiation BuiltIn, ∃ middle : Supplies κ, Course negotiation supplies last middle ∧
      (last.advance middle).action.Leads (.over result) := by
  cases course with
  | begin => cases opening.symm.trans ended
  | step course leads =>
      obtain rfl : _ = Phase.over result := ended
      exact ⟨_, _, course, leads⟩

/--
With built-in handlers a negotiation keeps to the contract wherever it may be, and it ends with an
ordinary fault or with an outcome that came of it.
-/
theorem contract_kept (furnished : negotiation.registry.Furnished)
    (opening : negotiation.phase = .opening) :
    (∀ now, Becomes κ negotiation now → Kept κ now) ∧
    ∀ (bound : Nat) (cancelAt : Option Nat) (supplies : Supplies κ) (scene : Scene)
      (ended : Ended (Supplies κ) BuiltIn),
      negotiation.run bound cancelAt supplies scene = some ended →
        (∀ fault, ended.result = .error fault → fault.Ordinary) ∧
        ∀ outcome, ended.result = .ok outcome →
          ∃ last middle, Course negotiation supplies last middle ∧ Kept κ last ∧
            (last.advance middle).action.Leads (.over (.ok outcome)) := by
  have kept (now : Negotiation BuiltIn) (becomes : Becomes κ negotiation now) : Kept κ now := by
    obtain ⟨furnished, sound⟩ := becomes.sound furnished opening
    exact sound.kept furnished
  refine ⟨kept, fun bound cancelAt supplies scene ended ran => ?_⟩
  have ordinary {alarms : Alarms} {fault : Fault} (rings : alarms.Rings fault) :
      fault.Ordinary := by
    cases rings <;> trivial
  rw [run] at ran
  split at ran
  · rename_i fault rung
    cases ran
    refine ⟨?_, by rintro _ ⟨⟩⟩
    rintro _ ⟨⟩
    exact ordinary (rings_of_rung rung)
  · have ends : Moment.end? _ bound ⟨negotiation, supplies, scene⟩ = some ended := ran
    rcases Course.result_of_end? .begin ends with ⟨fault, result, rings⟩ |
      ⟨now, later, course, finished⟩
    · rw [result]
      refine ⟨?_, by rintro _ ⟨⟩⟩
      rintro _ ⟨⟩
      exact ordinary rings
    · obtain ⟨last, middle, course, leads⟩ := course.over opening finished
      have holds := kept last course.becomes
      refine ⟨fun fault result => ?_, fun outcome result => ?_⟩
      · rw [result] at leads
        exact holds.faults leads
      · rw [result] at leads
        exact ⟨last, middle, course, holds, leads⟩

/-- A client that takes over, falls back to blobs, and goes on with the protocol it is offered. -/
def fallingBack : Negotiation BuiltIn :=
  { protocol := "p9any"
    start := .live (some ⟨"alice", "p9any"⟩) .client
    route := .direct
    settings := Settings.default
    registry := Registry.standard }

def offering : Scene :=
  let offer := (Message.offer ["p9sk1", "p9sk2"]).encode.toOption.getD []
  { shared := { channel := { reads := [.data (Frame.encode offer), .silence] } } }

theorem contract_kept_fallingBack :
    Kept MemoryKeys fallingBack ∧
      ∃ ended, fallingBack.run 30 none SharedKey.aliceSupplies offering = some ended ∧
        ended.scene.shared.channel.written.length = 2 ∧
        ∀ fault, ended.result = .error fault → fault.Ordinary := by
  have furnished : fallingBack.registry.Furnished := Registry.furnished_standard
  obtain ⟨kept, runs⟩ := contract_kept (κ := MemoryKeys) furnished rfl
  have ends : (fallingBack.run 30 none SharedKey.aliceSupplies offering).map
      (fun ended => ended.scene.shared.channel.written.length) = some 2 := by
    decide +kernel
  obtain ⟨ended, ran, written⟩ := Option.map_eq_some_iff.mp ends
  exact ⟨kept _ .begin, ended, ran, written, (runs _ _ _ _ _ ran).1⟩

end Negotiation

end Parley
