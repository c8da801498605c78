import Parley.Proofs.Channel.Lease
import Parley.Proofs.Negotiation.Deadlines
import Parley.Proofs.Negotiation.Refusal
import Parley.Proofs.Negotiation.Steps

/-!
Leases in negotiations. A direct negotiation has the lease of its channel whenever it talks or
pauses, and no longer when it has ended, whichever way that came. One that cannot have the channel
leaves it alone.
-/

namespace Parley

structure Scene.Holds (scene : Scene) (held : Bool) : Prop where
  holder : scene.shared.holder = if held then some Scene.holder else none
  leased : scene.leased = held

namespace Scene

variable {scene : Scene} {held : Bool}

theorem Holds.release (holds : scene.Holds held) : scene.release.Holds false := by
  rw [Scene.release, holds.leased]
  cases held with
  | true => exact ⟨rfl, rfl⟩
  | false => exact holds

theorem Holds.lease (holds : scene.Holds false) :
    scene.lease.1 = true ∧ scene.lease.2.Holds true := by
  have free : scene.shared.holder = none := holds.holder
  rw [Scene.lease, Shared.lease, Shared.isLeased, free]
  exact ⟨rfl, rfl, rfl⟩

theorem lease_taken (taken : scene.shared.isLeased = true) : scene.lease = (false, scene) := by
  rw [Scene.lease, Shared.lease, if_pos taken]

theorem Holds.play {α : Type} (holds : scene.Holds held) (dialogue : Dialogue α) :
    (scene.play dialogue).2.Holds held := ⟨holds.holder, holds.leased⟩

end Scene

inductive Phase.Leases {σ : Type} : Bool → Phase σ → Prop
  | opening : Leases false .opening
  | claiming {next : Phase σ} (later : Leases true next) : Leases false (.claiming next)
  | calling (loop : BlobLoop σ) : Leases true (.calling loop)
  | obeying (loop : BlobLoop σ) (mode : Mode) : Leases true (.obeying loop mode)
  | stopped (handler : σ) (chain : List String) (mode : Mode) :
      Leases true (.stopped handler chain mode)
  | takingOver (handler : σ) (fresh : Bool) : Leases true (.takingOver handler fresh)
  | tookOver (handler : σ) (mode : Mode) : Leases true (.tookOver handler mode)
  | tookOverFree (handler : σ) (mode : Mode) : Leases false (.tookOverFree handler mode)
  | over (result : Except Fault Outcome) (held : Bool) : Leases held (.over result)

inductive Action.Works {α : Type} : Action α → Prop
  | talk {dialogue : Dialogue α} (talks : ∀ value, dialogue ≠ .done value) : Works (.talk dialogue)
  | pause (seconds : Nat) (next : α) : Works (.pause seconds next)

/-- What a direct negotiation may do with the lease of its channel, or without it. -/
inductive Action.Leases {σ : Type} : Bool → Action (Phase σ) → Prop
  | goOn {held : Bool} {next : Phase σ} (later : next.Leases held) :
      Leases held (Negotiation.goOn next)
  | talk {dialogue : Dialogue (Phase σ)} (later : ∀ next, dialogue.Leads next → next.Leases true) :
      Leases true (.talk dialogue)
  | pause (seconds : Nat) {next : Phase σ} (later : next.Leases true) :
      Leases true (.pause seconds next)
  | lease {next : Bool → Phase σ} (later : (next true).Leases true) : Leases false (.lease next)
  | release {next : Phase σ} (later : next.Leases false) : Leases true (.release next)
  | stop (held : Bool) (result : Except Fault Outcome) : Leases held (.stop result)

section

variable {σ : Type} {held : Bool} {action : Action (Phase σ)} {alarms : Alarms}
  {scene later : Scene} {phase : Phase σ}

theorem Action.Leases.held_of_works (leases : action.Leases held) (works : action.Works) :
    held = true := by
  cases leases with
  | goOn later =>
      cases works with
      | talk talks => exact absurd rfl (talks _)
  | talk later => rfl
  | pause seconds later => rfl
  | lease later => cases works
  | release later => rfl
  | stop held result => cases works

theorem Action.Leases.goes_on (leases : action.Leases held) (holds : scene.Holds held)
    (performed : Negotiation.perform clock alarms scene action = .inl (phase, later)) :
    ∃ held, phase.Leases held ∧ later.Holds held := by
  cases leases with
  | goOn next =>
      cases performed
      exact ⟨held, next, holds.holder, holds.leased⟩
  | @talk dialogue next =>
      have leads := Negotiation.leads_of_perform performed
      have kept := holds.play dialogue
      rcases leads with ⟨leads⟩
      simp only [Negotiation.perform] at performed
      split at performed
      · rename_i played
        cases performed
        rw [played] at kept
        exact ⟨true, next phase leads, kept⟩
      · cases performed
  | pause seconds next =>
      simp only [Negotiation.perform] at performed
      split at performed
      · cases performed
      · cases performed
        exact ⟨true, next, holds.holder, holds.leased⟩
  | lease next =>
      obtain ⟨granted, kept⟩ := holds.lease
      cases performed
      rw [granted]
      exact ⟨true, next, kept⟩
  | release next =>
      cases performed
      exact ⟨false, next, holds.release⟩
  | stop held result => cases performed

theorem Action.Leases.ends (leases : action.Leases held) (holds : scene.Holds held)
    {result : Except Fault Outcome}
    (performed : Negotiation.perform clock alarms scene action = .inr (result, later)) :
    later.release.Holds false := by
  cases leases with
  | goOn next => cases performed
  | @talk dialogue next =>
      have kept := holds.play dialogue
      simp only [Negotiation.perform] at performed
      split at performed
      · cases performed
      · rename_i played
        cases performed
        rw [played] at kept
        exact Scene.Holds.release ⟨kept.holder, kept.leased⟩
  | pause seconds next =>
      simp only [Negotiation.perform] at performed
      split at performed
      · cases performed
        exact Scene.Holds.release ⟨holds.holder, holds.leased⟩
      · cases performed
  | lease next => cases performed
  | release next => cases performed
  | stop held result =>
      cases performed
      exact holds.release

end

namespace Negotiation

/-! ## What a direct negotiation does next -/

section

variable {ω σ : Type} {held : Bool} {loop : BlobLoop σ}

theorem leases_conclude [HasFace σ] (handler : σ) (mode : Mode) (held : Bool) :
    (conclude handler mode).Leases held := .over _ held

theorem leases_closeTurn (loop : BlobLoop σ) (turn : Turn ω σ) :
    (closeTurn loop turn).Leases true := by
  have closed (phase : Phase σ) (leads : (closeTurn loop turn).Leads phase) :
      phase.Leases true := by
    cases closed_of_leads leads with
    | broken answered => exact .over _ true
    | unsent sent => exact .over _ true
    | obeying answered => exact .obeying _ _
  rw [closeTurn] at closed ⊢
  split
  · exact .goOn (.over _ true)
  · rename_i mode answered
    split
    · rename_i sends
      rw [answered] at closed
      simp only [if_pos sends] at closed
      exact .talk fun next leads => closed next (.talk leads)
    · exact .goOn (.obeying _ _)

theorem leases_obey (loop : BlobLoop σ) (mode : Mode) : (obey loop mode).Leases true := by
  cases mode with
  | needData =>
      refine .talk fun next leads => ?_
      have asked : (obey loop .needData).Leads next := .talk leads
      cases obeyed_of_leads asked with
      | unread received => exact .over _ true
      | reads frame => exact .calling _
      | stops halts => exact halts.elim
  | pendingData => exact .goOn (.calling _)
  | «continue» => exact .goOn (.calling _)
  | wait seconds => exact .pause seconds (.calling _)
  | _ => exact .goOn (.stopped _ _ _)

variable [HasFace σ] [Handler ω σ]

theorem leases_takeOver (handler : σ) (fresh : Bool) (surroundings : ω) :
    (takeOver handler fresh surroundings).2.Leases true := by
  refine .talk fun phase leads => ?_
  have worked : (takeOver handler fresh surroundings).2.Leads phase := .talk leads
  obtain ⟨next, answer, _, rfl⟩ := stretch_of_leads worked
  rcases answer with _ | fault | mode
  · exact .takingOver _ _
  · exact .over _ true
  · exact .tookOver _ _

theorem leases_enter (negotiation : Negotiation σ) {next : σ → Phase σ} (surroundings : ω)
    (later : ∀ handler, (next handler).Leases held) :
    (negotiation.enter next surroundings).action.Leases held := by
  rw [enter]
  split
  · exact .goOn (.over _ held)
  · dsimp only
    split
    · exact .goOn (later _)
    · exact .goOn (leases_conclude _ _ held)

theorem leases_follow (negotiation : Negotiation σ) (handler : σ) (chain : List String)
    (surroundings : ω) : (negotiation.follow handler chain surroundings).action.Leases true := by
  rw [follow]
  split
  · exact .goOn (.over _ true)
  · dsimp only
    split
    · exact .goOn (leases_conclude _ _ true)
    · split
      · exact .goOn (.over _ true)
      · dsimp only
        split
        · exact .goOn (.calling _)
        · exact .goOn (leases_conclude _ _ true)

theorem leases_advance {negotiation : Negotiation σ} (surroundings : ω)
    (direct : negotiation.route = .direct) (leases : negotiation.phase.Leases held) :
    (negotiation.advance surroundings).action.Leases held := by
  generalize now : negotiation.phase = phase at leases
  cases leases with
  | opening =>
      rw [advance, now, direct]
      exact leases_enter _ _ fun handler => .claiming (.takingOver handler true)
  | claiming later =>
      rw [advance, now]
      exact .lease later
  | calling loop =>
      rw [advance_calling surroundings now]
      exact leases_closeTurn loop _
  | obeying loop mode =>
      rw [advance_obeying surroundings now]
      exact leases_obey loop mode
  | stopped handler chain mode =>
      by_cases delegated : mode = .delegated
      · subst delegated
        rw [advance, now]
        exact leases_follow _ _ _ _
      · rw [advance_stopped surroundings now delegated]
        exact .goOn (leases_conclude _ _ true)
  | takingOver handler fresh =>
      rw [advance, now]
      exact leases_takeOver handler fresh surroundings
  | tookOver handler mode =>
      by_cases waits : ∃ seconds, mode = .wait seconds
      · obtain ⟨seconds, rfl⟩ := waits
        rw [advance, now]
        exact .pause seconds (.takingOver _ _)
      · rw [advance_tookOver surroundings now (not_exists.mp waits)]
        exact .release (.tookOverFree _ _)
  | tookOverFree handler mode =>
      by_cases unsupported : mode = .notSupported
      · subst unsupported
        rw [advance, now]
        exact leases_enter _ _ fun handler => .claiming (.calling _)
      · by_cases delegated : mode = .delegated
        · subst delegated
          rw [advance, now]
          exact .goOn (.claiming (.stopped _ _ _))
        · rw [advance_tookOverFree surroundings now unsupported delegated]
          exact .goOn (leases_conclude _ _ false)
  | «over» result held =>
      rw [advance, now]
      exact .stop held result

/-! ## Runs that have the channel -/

structure Moment.Leases (moment : Moment ω σ) (held : Bool) : Prop where
  direct : moment.negotiation.route = .direct
  phase : moment.negotiation.phase.Leases held
  scene : moment.scene.Holds held

variable {moment next last : Moment ω σ} {alarms : Alarms} {ended : Ended ω σ} {bound count : Nat}

theorem Moment.Leases.goes_on (leases : moment.Leases held)
    (moves : moment.step alarms = .inl next) : ∃ held, next.Leases held := by
  have advanced := leases_advance moment.surroundings leases.direct leases.phase
  rw [step] at moves
  dsimp only at moves
  split at moves
  · rename_i performed
    obtain ⟨later, phase, scene⟩ := advanced.goes_on leases.scene performed
    cases moves
    exact ⟨later, leases.direct, phase, scene⟩
  · cases moves

theorem Moment.Leases.ends (leases : moment.Leases held)
    (stops : moment.step alarms = .inr ended) : ended.scene.Holds false := by
  have advanced := leases_advance moment.surroundings leases.direct leases.phase
  rw [step] at stops
  dsimp only at stops
  split at stops
  · cases stops
  · rename_i performed
    have released := advanced.ends leases.scene performed
    cases stops
    exact released

theorem Leads.leases (leads : Leads alarms count moment last) (leases : moment.Leases held) :
    ∃ held, last.Leases held := by
  induction leads generalizing held with
  | here => exact ⟨held, leases⟩
  | step moves _ ih =>
      obtain ⟨later, leases⟩ := leases.goes_on moves
      exact ih leases

theorem Moment.Leases.end? (leases : moment.Leases held)
    (ends : moment.end? alarms bound = some ended) : ended.scene.Holds false := by
  induction bound generalizing moment held with
  | zero => cases ends
  | succ bound ih =>
      rw [Moment.end?_succ] at ends
      rcases stepped : moment.step alarms with next | last
      · rw [stepped] at ends
        obtain ⟨later, leases⟩ := leases.goes_on stepped
        exact ih leases ends
      · rw [stepped] at ends
        cases ends
        exact leases.ends stepped

theorem Moment.Leases.holder_of_works (leases : moment.Leases held)
    (works : (moment.negotiation.advance moment.surroundings).action.Works) :
    moment.scene.shared.holder = some Scene.holder := by
  have advanced := leases_advance moment.surroundings leases.direct leases.phase
  obtain rfl := advanced.held_of_works works
  exact leases.scene.holder

variable {negotiation : Negotiation σ} {cancelAt : Option Nat} {surroundings : ω} {scene : Scene}

theorem run_leaves_free (direct : negotiation.route = .direct)
    (opening : negotiation.phase = .opening) (free : scene.Holds false)
    (ends : negotiation.run bound cancelAt surroundings scene = some ended) :
    ended.scene.Holds false := by
  let alarms := Alarms.starting cancelAt negotiation.settings scene.now
  rcases rung : alarms.rung scene.now with _ | fault
  · have leases : Moment.Leases ⟨negotiation, surroundings, scene⟩ false :=
      ⟨direct, opening ▸ .opening, free⟩
    rw [run_of_quiet rung] at ends
    exact leases.end? ends
  · rw [(run_of_rung rung bound surroundings).1] at ends
    cases ends
    exact free

/-! ## Runs that do not have the channel -/

/-- What a direct negotiation comes to when someone else has its channel. -/
def turnedAway (negotiation : Negotiation σ) (surroundings : ω) : Except Fault Outcome :=
  match (negotiation.prepare surroundings).1 with
  | .error fault => .error fault
  | .ok initialised =>
    if initialised.accepted then .error .channelBusy
    else .ok (Outcome.conclude (face initialised.handler) .noIdentity)

theorem step_claiming_taken (alarms : Alarms) {next : Phase σ}
    (phase : moment.negotiation.phase = .claiming next)
    (taken : moment.scene.shared.isLeased = true) :
    moment.step alarms =
      .inl { moment with
        negotiation := { moment.negotiation with phase := .over (.error .channelBusy) } } := by
  have advance : moment.negotiation.advance moment.surroundings =
      ⟨moment.negotiation.registry, moment.surroundings,
        .lease fun granted => if granted then next else .over (.error .channelBusy)⟩ := by
    rw [Negotiation.advance, phase]
  have performed : perform moment.negotiation.clock alarms moment.scene
      (.lease fun granted => if granted then next else .over (.error .channelBusy)) =
      .inl (.over (.error .channelBusy), moment.scene) := by
    rw [perform, Scene.lease_taken taken]
    rfl
  exact Moment.moves advance performed

/-- Three phases are enough to find that the channel is busy, or that there was no use for it. -/
theorem end?_of_taken (direct : moment.negotiation.route = .direct)
    (opening : moment.negotiation.phase = .opening) (taken : moment.scene.shared.isLeased = true)
    (unleased : moment.scene.leased = false) (alarms : Alarms) (bound : Nat) :
    ∃ ended, moment.end? alarms (bound + 3) = some ended ∧ ended.scene = moment.scene ∧
      ended.result = moment.negotiation.turnedAway moment.surroundings := by
  have entered : moment.negotiation.advance moment.surroundings =
      moment.negotiation.enter (fun handler => .claiming (.takingOver handler true))
        moment.surroundings := by
    rw [advance, opening, direct]
  have kept : moment.scene.release = moment.scene := by
    rw [Scene.release, unleased]
    rfl
  rw [turnedAway, prepare_eq]
  rcases made : (moment.negotiation.registry.create moment.negotiation.protocol).1 with
    fault | handler
  · have first := step_of_fault alarms entered made
    rw [Moment.end?_of_moves first, Moment.end?_of_stops (step_over alarms rfl)]
    exact ⟨_, rfl, kept, rfl⟩
  · rcases began : begin moment.negotiation.start moment.surroundings handler with
      ⟨_ | _, bound, later⟩
    · have first := step_of_refusal alarms entered made began
      rw [Moment.end?_of_moves first, Moment.end?_of_stops (step_over alarms rfl)]
      refine ⟨_, rfl, kept, ?_⟩
      simp only [Except.map, began]
      rfl
    · let claimed : Moment ω σ :=
        { moment with
          negotiation :=
            { moment.negotiation with
              registry := (moment.negotiation.registry.create moment.negotiation.protocol).2
              phase := .claiming (.takingOver bound true) }
          surroundings := later }
      have first : moment.step alarms = .inl claimed :=
        step_of_acceptance alarms entered made began
      have second : claimed.step alarms =
          .inl { claimed with
            negotiation := { claimed.negotiation with phase := .over (.error .channelBusy) } } :=
        step_claiming_taken alarms rfl taken
      rw [Moment.end?_of_moves first, Moment.end?_of_moves second,
        Moment.end?_of_stops (step_over alarms rfl)]
      refine ⟨_, rfl, kept, ?_⟩
      simp only [Except.map, began]
      rfl

omit [HasFace σ] [Handler ω σ] in
theorem quiet_of_uncancelled (uncancelled : ∀ time, cancelAt = some time → scene.now < time)
    (positive : 0 < negotiation.settings.timeout) :
    (Alarms.starting cancelAt negotiation.settings scene.now).rung scene.now = none := by
  refine Alarms.rung_of_early ?_
  have later : scene.now < scene.now + negotiation.settings.timeout := by omega
  rw [Alarms.first, Alarms.starting]
  rcases cancelAt with _ | time
  · exact later
  · have cancelled := uncancelled time rfl
    dsimp only
    omega

/-! ## Exclusive leases -/

/--
A shared channel has at most one live lease, whatever is done with it and by whom; it can be leased,
and worked on without a lease, exactly while there is none; and whoever is refused leaves everything
as it was. A direct negotiation on a free channel has the lease whenever it talks or pauses, and
leaves the channel free however it ends. On a channel that is taken it touches nothing, and finds the
channel busy unless it has no use for it.
-/
theorem lease_exclusive {χ α : Type} (channel : χ) (negotiation : Negotiation σ)
    (direct : negotiation.route = .direct) (opening : negotiation.phase = .opening)
    (cancelAt : Option Nat) (surroundings : ω) (scene : Scene) (unleased : scene.leased = false) :
    (∀ (log : List (Shared.Use χ α × Except Fault (Shared.Reply α))) (shared : Shared χ),
      shared.Used channel log → shared.Exclusive log) ∧
    (scene.shared.isLeased = false →
      (∀ bound ended, negotiation.run bound cancelAt surroundings scene = some ended →
        ended.scene.shared.isLeased = false) ∧
      ∀ count moment,
        Leads (Alarms.starting cancelAt negotiation.settings scene.now) count
          ⟨negotiation, surroundings, scene⟩ moment →
        (moment.negotiation.advance moment.surroundings).action.Works →
        moment.scene.shared.holder = some Scene.holder) ∧
    (scene.shared.isLeased = true → (∀ time, cancelAt = some time → scene.now < time) →
      0 < negotiation.settings.timeout → ∀ bound,
        ∃ ended, negotiation.run (bound + 3) cancelAt surroundings scene = some ended ∧
          ended.scene = scene ∧ ended.result = negotiation.turnedAway surroundings) := by
  refine ⟨fun log shared used => used.exclusive, fun free => ?_, fun taken uncancelled positive => ?_⟩
  · have holds : scene.Holds false :=
      ⟨Option.not_isSome_iff_eq_none.mp (Bool.eq_false_iff.mp free), unleased⟩
    refine ⟨fun bound ended ends => ?_, fun count moment leads works => ?_⟩
    · have released := run_leaves_free direct opening holds ends
      rw [Shared.isLeased, released.holder]
      rfl
    · have leases : Moment.Leases ⟨negotiation, surroundings, scene⟩ false :=
        ⟨direct, opening ▸ .opening, holds⟩
      obtain ⟨held, leases⟩ := leads.leases leases
      exact leases.holder_of_works works
  · intro bound
    rw [run_of_quiet (quiet_of_uncancelled uncancelled positive)]
    exact end?_of_taken direct opening taken unleased _ bound

end

def decliner : Rehearsed :=
  { face := { protocol := "s" }
    takingOver := { cues := [{ answer := .ok (.wait 10) }, { answer := .ok .notSupported }] }
    producing :=
      { cues := [{ answer := .ok .pendingData, data := [1] }, { answer := .ok .failed }] } }

def declining : Negotiation Rehearsed :=
  { protocol := "s", start := .live none .client, route := .direct, settings := .default
    registry := (({} : Registry Rehearsed).register "s" (.constant decliner)).2 }

def aboutToPause : Moment Unit Rehearsed :=
  let bound := (decliner.init none .client ()).handler
  { negotiation :=
      { declining with
        registry := (declining.registry.create "s").2
        phase := .tookOver (bound.takeOver ()).handler (.wait 10) }
    surroundings := ()
    scene := emptyScene.lease.2 }

def takenScene : Scene := { shared := { channel := {}, holder := some "other" } }

theorem lease_exclusive_declining :
    (∃ shared : Shared Script, shared.isLeased = true ∧
      shared.use (.lease "second" : Shared.Use Script Unit) = (.error .channelBusy, shared)) ∧
    (∃ ended, declining.run 20 none () emptyScene = some ended ∧
      ended.scene.written = [[0, 0, 0, 1, 1]] ∧ ended.scene.shared.isLeased = false) ∧
    (Leads (Alarms.starting none declining.settings emptyScene.now) 3
        ⟨declining, (), emptyScene⟩ aboutToPause ∧
      aboutToPause.scene.shared.holder = some Scene.holder) ∧
    ∃ ended, declining.run 3 none () takenScene = some ended ∧ ended.scene = takenScene ∧
      ended.result = .error .channelBusy := by
  have positive : 0 < declining.settings.timeout := by decide
  have shown : (declining.run 20 none () emptyScene).map (·.scene.written) =
      some [[0, 0, 0, 1, 1]] := by decide +kernel
  have pauses : Leads (Alarms.starting none declining.settings emptyScene.now) 3
      ⟨declining, (), emptyScene⟩ aboutToPause := .step rfl (.step rfl (.step rfl .here))
  have turned : declining.turnedAway () = .error .channelBusy := by rfl
  obtain ⟨channels, free, _⟩ := lease_exclusive (α := Unit) ({} : Script) declining rfl rfl none ()
    emptyScene rfl
  obtain ⟨_, _, taken⟩ := lease_exclusive (α := Unit) ({} : Script) declining rfl rfl none ()
    takenScene rfl
  refine ⟨?_, ?_, ?_, ?_⟩
  · let shared : Shared Script :=
      (Shared.use { channel := {} } (.lease "first" : Shared.Use Script Unit)).2
    have exclusive := channels _ shared (.more .unused (.lease "first"))
    have refused : (shared.use (.lease "second" : Shared.Use Script Unit)).1 =
        .error .channelBusy := rfl
    exact ⟨shared, rfl, Prod.ext refused (exclusive.refused _ _ refused).2⟩
  · obtain ⟨ended, ran, written⟩ := Option.map_eq_some_iff.mp shown
    exact ⟨ended, ran, written, (free rfl).1 20 ended ran⟩
  · exact ⟨pauses, (free rfl).2 3 aboutToPause pauses (.pause 10 _)⟩
  · obtain ⟨ended, ran, scene, result⟩ := taken rfl (by simp) positive 0
    exact ⟨ended, ran, scene, result.trans turned⟩

end Negotiation

end Parley
