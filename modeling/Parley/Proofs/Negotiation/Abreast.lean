import Parley.Proofs.Channel.Frame
import Parley.Proofs.Negotiation.Moments
import Parley.Proofs.Registry.Alike

/-!
Negotiations abreast of each other: they drive the same handlers through blobs, whatever route they
came by and whoever has the lease. They stay abreast until they end alike.
-/

namespace Parley

structure Scene.Alike (first second : Scene) : Prop where
  channel : first.shared.channel = second.shared.channel
  now : first.now = second.now
  pauses : first.pauses = second.pauses

theorem Scene.play_bind {α β : Type} (scene : Scene) (dialogue : Dialogue α)
    (further : α → Dialogue β) :
    scene.play (dialogue.bind further) =
      match scene.play dialogue with
      | (none, later) => (none, later)
      | (some value, later) => later.play (further value) := by
  simp only [Scene.play, Script.play_bind]
  rcases scene.shared.channel.play dialogue with ⟨_ | value, later⟩ <;> rfl

theorem Scene.Alike.play {α : Type} {first second : Scene} (alike : Scene.Alike first second)
    (dialogue : Dialogue α) :
    (first.play dialogue).1 = (second.play dialogue).1 ∧
      Scene.Alike (first.play dialogue).2 (second.play dialogue).2 := by
  rw [Scene.play, Scene.play, alike.channel]
  exact ⟨rfl, rfl, alike.now, alike.pauses⟩

theorem Scene.Alike.release {first second : Scene} (alike : Scene.Alike first second) :
    Scene.Alike first.release second := by
  rw [Scene.release]
  split
  · exact ⟨alike.channel, alike.now, alike.pauses⟩
  · exact alike

theorem Scene.holder_release {scene : Scene} (leased : scene.leased = true) :
    scene.release.shared.holder = none := by
  rw [Scene.release, if_pos leased]

theorem Scene.Alike.lease {first second : Scene} (alike : Scene.Alike first second)
    (free : first.shared.holder = none) :
    first.lease.1 = true ∧ first.lease.2.leased = true ∧ Scene.Alike first.lease.2 second := by
  rw [Scene.lease, Shared.lease, Shared.isLeased, free]
  exact ⟨rfl, rfl, alike.channel, alike.now, alike.pauses⟩

def BlobLoop.after {ω σ : Type} (loop : BlobLoop σ) (turn : Turn ω σ) : BlobLoop σ :=
  { loop with handler := turn.handler, blob := turn.blob }

namespace Negotiation

variable {ω σ : Type} [HasFace σ] [Handler ω σ]

inductive SamePhase : Phase σ → Phase σ → Prop
  | calling (loop : BlobLoop σ) : SamePhase (.calling loop) (.calling loop)
  | obeying (loop : BlobLoop σ) (mode : Mode) : SamePhase (.obeying loop mode) (.obeying loop mode)
  | stopped {first second : σ} (shown : face first = face second) (chain : List String)
      (mode : Mode) : SamePhase (.stopped first chain mode) (.stopped second chain mode)
  | over (result : Except Fault Outcome) : SamePhase (.over result) (.over result)

inductive SameAction : Action (Phase σ) → Action (Phase σ) → Prop
  | talk {first second : Dialogue (Phase σ)}
      (channel : ∀ script : Script, (script.play first).2 = (script.play second).2)
      (phase : ∀ script : Script,
        Option.Rel SamePhase (script.play first).1 (script.play second).1) :
      SameAction (.talk first) (.talk second)
  | pause (seconds : Nat) {first second : Phase σ} (phase : SamePhase first second) :
      SameAction (.pause seconds first) (.pause seconds second)
  | stop (result : Except Fault Outcome) : SameAction (.stop result) (.stop result)

structure SameAdvance (first second : Advance ω σ) : Prop where
  registry : Registry.Alike first.registry second.registry
  surroundings : first.surroundings = second.surroundings
  action : SameAction first.action second.action

/-- Moments that differ at most in who has the lease and in how they came this far. -/
structure Abreast (first second : Moment ω σ) : Prop where
  settings : first.negotiation.settings = second.negotiation.settings
  clock : first.negotiation.clock = second.negotiation.clock
  registry : Registry.Alike first.negotiation.registry second.negotiation.registry
  phase : SamePhase first.negotiation.phase second.negotiation.phase
  surroundings : first.surroundings = second.surroundings
  scene : Scene.Alike first.scene second.scene

/-! ## What actions come to -/

variable {alarms : Alarms}

omit [HasFace σ] [Handler ω σ] in
theorem seen_finish (result : Except Fault Outcome) (registry : Registry σ) (surroundings : ω)
    (scene : Scene) :
    seen (finish result registry surroundings scene) =
      (result, scene.shared.channel, scene.pauses, scene.now) := by
  rw [finish, Scene.release]
  split <;> rfl

omit [HasFace σ] [Handler ω σ] in
theorem seen_finish_alike {first second : Scene} (alike : Scene.Alike first second)
    (result : Except Fault Outcome) (registry other : Registry σ) (surroundings later : ω) :
    seen (finish result registry surroundings first) =
      seen (finish result other later second) := by
  rw [seen_finish, seen_finish, alike.channel, alike.pauses, alike.now]

omit [HasFace σ] in
theorem perform_pause (clock : Clock) (alarms : Alarms) {scene other : Scene}
    (alike : Scene.Alike scene other) (seconds : Nat) (phase next : Phase σ) :
    (∃ fault after later,
      perform clock alarms scene (.pause seconds phase) = .inr (.error fault, after) ∧
      perform clock alarms other (.pause seconds next) = .inr (.error fault, later) ∧
      Scene.Alike after later) ∨
    ∃ after later, perform clock alarms scene (.pause seconds phase) = .inl (phase, after) ∧
      perform clock alarms other (.pause seconds next) = .inl (next, later) ∧
      Scene.Alike after later ∧ after.leased = scene.leased := by
  simp only [perform, alike.now]
  have pauses := congrArg (· ++ [seconds]) alike.pauses
  rcases alarms.sleep other.now (clock.wake other.now (1000 * seconds)) with ⟨now, _ | fault⟩
  · exact Or.inr ⟨_, _, rfl, rfl, ⟨alike.channel, rfl, pauses⟩, rfl⟩
  · exact Or.inl ⟨fault, _, _, rfl, rfl, ⟨alike.channel, rfl, pauses⟩⟩

theorem SameAction.perform (clock : Clock) {first second : Action (Phase σ)} {scene other : Scene}
    (action : SameAction first second) (alike : Scene.Alike scene other) :
    (∃ result after later, perform clock alarms scene first = .inr (result, after) ∧
      perform clock alarms other second = .inr (result, later) ∧ Scene.Alike after later) ∨
    ∃ phase next after later, perform clock alarms scene first = .inl (phase, after) ∧
      perform clock alarms other second = .inl (next, later) ∧ SamePhase phase next ∧
      Scene.Alike after later := by
  cases action with
  | stop result => exact Or.inl ⟨result, scene, other, rfl, rfl, alike⟩
  | @pause seconds one two phase =>
      rcases perform_pause clock alarms alike seconds one two with
        ⟨fault, after, later, stopped, ended, same⟩ | ⟨after, later, paused, slept, same, _⟩
      · exact Or.inl ⟨_, after, later, stopped, ended, same⟩
      · exact Or.inr ⟨one, two, after, later, paused, slept, phase, same⟩
  | @talk one two channel phase =>
      have same := channel other.shared.channel
      have related := phase other.shared.channel
      simp only [Negotiation.perform, Scene.play, alike.channel, alike.now]
      revert same related
      rcases other.shared.channel.play one with ⟨one, script⟩
      rcases other.shared.channel.play two with ⟨two, channel⟩
      rintro rfl related
      cases related with
      | none => exact Or.inl ⟨_, _, _, rfl, rfl, ⟨rfl, rfl, alike.pauses⟩⟩
      | some related => exact Or.inr ⟨_, _, _, _, rfl, rfl, related, ⟨rfl, rfl, alike.pauses⟩⟩

theorem SameAdvance.progress {moment other : Moment ω σ}
    (advance : SameAdvance (moment.negotiation.advance moment.surroundings)
      (other.negotiation.advance other.surroundings))
    (settings : moment.negotiation.settings = other.negotiation.settings)
    (clock : moment.negotiation.clock = other.negotiation.clock)
    (scene : Scene.Alike moment.scene other.scene) :
    EndAlike alarms moment other ∨ GoOnTo alarms Abreast moment other := by
  rcases advance.action.perform moment.negotiation.clock scene with
    ⟨result, after, later, one, two, alike⟩ | ⟨phase, next, after, later, one, two, same, alike⟩ <;>
    rw [clock] at two
  · refine Or.inl ⟨_, _, .stop (Moment.stops rfl one), .stop (Moment.stops rfl two), ?_⟩
    exact seen_finish_alike alike _ _ _ _ _
  · refine Or.inr ⟨0, 0, _, _, .step (Moment.moves rfl one) .here,
      .step (Moment.moves rfl two) .here, ?_⟩
    exact ⟨settings, clock, advance.registry, same, advance.surroundings, alike⟩

/-! ## What blob loops do -/

theorem sameAction_goOn {first second : Phase σ} (phase : SamePhase first second) :
    SameAction (goOn first) (goOn second) :=
  .talk (fun _ => rfl) fun _ => .some phase

theorem samePhase_conclude {first second : σ} (shown : face first = face second) (mode : Mode) :
    SamePhase (conclude first mode) (conclude second mode) := by
  rw [conclude, conclude, shown]
  exact .over _

def turnOf (loop : BlobLoop σ) (surroundings : ω) : Turn ω σ :=
  match loop.call with
  | .produce => Handler.produce loop.handler loop.blob.clear surroundings
  | .consume => Handler.consume loop.handler loop.blob surroundings

def closeTurn (loop : BlobLoop σ) (turn : Turn ω σ) : Action (Phase σ) :=
  match turn.answer with
  | .error fault => goOn (.over (.error fault))
  | .ok mode =>
    if loop.call = .produce ∧ !turn.blob.isEmpty then
      .talk ((Frame.send turn.blob.contents).bind fun
        | .error fault => .done (.over (.error fault))
        | .ok () => .done (.obeying (loop.after turn) mode))
    else goOn (.obeying (loop.after turn) mode)

theorem advance_calling {negotiation : Negotiation σ} {loop : BlobLoop σ} (surroundings : ω)
    (phase : negotiation.phase = .calling loop) :
    negotiation.advance surroundings =
      ⟨negotiation.registry, (turnOf loop surroundings).surroundings,
        closeTurn loop (turnOf loop surroundings)⟩ := by
  rw [advance, phase]
  rfl

theorem advance_obeying {negotiation : Negotiation σ} {loop : BlobLoop σ} {mode : Mode}
    (surroundings : ω) (phase : negotiation.phase = .obeying loop mode) :
    negotiation.advance surroundings =
      ⟨negotiation.registry, surroundings, obey loop mode⟩ := by
  rw [advance, phase]

theorem advance_stopped {negotiation : Negotiation σ} {handler : σ} {chain : List String}
    {mode : Mode} (surroundings : ω) (phase : negotiation.phase = .stopped handler chain mode)
    (other : mode ≠ .delegated) :
    negotiation.advance surroundings =
      ⟨negotiation.registry, surroundings, goOn (conclude handler mode)⟩ := by
  rw [advance, phase]
  cases mode with
  | delegated => exact absurd rfl other
  | _ => rfl

theorem advance_tookOver {negotiation : Negotiation σ} {handler : σ} {mode : Mode}
    (surroundings : ω) (phase : negotiation.phase = .tookOver handler mode)
    (awake : ∀ seconds, mode ≠ .wait seconds) :
    negotiation.advance surroundings =
      ⟨negotiation.registry, surroundings, .release (.tookOverFree handler mode)⟩ := by
  rw [advance, phase]
  cases mode with
  | wait seconds => exact absurd rfl (awake seconds)
  | _ => rfl

theorem advance_tookOverFree {negotiation : Negotiation σ} {handler : σ} {mode : Mode}
    (surroundings : ω) (phase : negotiation.phase = .tookOverFree handler mode)
    (supported : mode ≠ .notSupported) (other : mode ≠ .delegated) :
    negotiation.advance surroundings =
      ⟨negotiation.registry, surroundings, goOn (conclude handler mode)⟩ := by
  rw [advance, phase]
  cases mode with
  | notSupported => exact absurd rfl supported
  | delegated => exact absurd rfl other
  | _ => rfl

omit [Handler ω σ] in
theorem sameAction_closeTurn (loop : BlobLoop σ) (turn : Turn ω σ) :
    SameAction (closeTurn loop turn) (closeTurn loop turn) := by
  rw [closeTurn]
  split
  · exact sameAction_goOn (.over _)
  · split
    · refine .talk (fun _ => rfl) fun script => ?_
      rw [Script.play_bind]
      rcases script.play (Frame.send turn.blob.contents) with ⟨_ | _ | _, later⟩
      · exact .none
      · exact .some (.over _)
      · exact .some (.obeying _ _)
    · exact sameAction_goOn (.obeying _ _)

theorem sameAction_obey (loop : BlobLoop σ) (mode : Mode) :
    SameAction (obey loop mode) (obey loop mode) := by
  cases mode with
  | needData =>
      refine .talk (fun _ => rfl) fun script => ?_
      rw [Script.play_bind]
      rcases script.play (Frame.receive loop.blob.capacity) with ⟨_ | _ | _, later⟩
      · exact .none
      · exact .some (.over _)
      · exact .some (.calling _)
  | pendingData => exact sameAction_goOn (.calling _)
  | «continue» => exact sameAction_goOn (.calling _)
  | wait seconds => exact .pause seconds (.calling _)
  | _ => exact sameAction_goOn (.stopped rfl _ _)

theorem sameAdvance_follow {first second : Negotiation σ} {one two : σ}
    (settings : first.settings = second.settings)
    (registry : Registry.Alike first.registry second.registry) (shown : face one = face two)
    (chain : List String) (surroundings : ω) :
    SameAdvance (first.follow one chain surroundings) (second.follow two chain surroundings) := by
  have successor : first.successor one chain = second.successor two chain := by
    simp only [successor, shown, settings, registry.contains]
  simp only [follow, successor, shown]
  split
  · exact ⟨registry, rfl, sameAction_goOn (.over _)⟩
  · split
    · exact ⟨registry, rfl, sameAction_goOn (samePhase_conclude shown _)⟩
    · obtain ⟨created, registries⟩ := registry.create ‹String›
      revert created registries
      rcases first.registry.create _ with ⟨_ | next, later⟩
      · rcases second.registry.create _ with ⟨_ | _, other⟩
        · rintro ⟨⟩ registries
          exact ⟨registries, rfl, sameAction_goOn (.over _)⟩
        · rintro ⟨⟩
      · rcases second.registry.create _ with ⟨_ | _, other⟩
        · rintro ⟨⟩
        · rintro ⟨⟩ registries
          refine ⟨registries, rfl, sameAction_goOn ?_⟩
          rw [settings]
          split
          · exact .calling _
          · exact samePhase_conclude rfl _

theorem Abreast.advance {moment other : Moment ω σ} (abreast : Abreast moment other) :
    SameAdvance (moment.negotiation.advance moment.surroundings)
      (other.negotiation.advance other.surroundings) := by
  have registry := abreast.registry
  have phase := abreast.phase
  rw [abreast.surroundings]
  generalize one : moment.negotiation.phase = first at phase
  generalize two : other.negotiation.phase = second at phase
  cases phase with
  | calling loop =>
      rw [advance_calling _ one, advance_calling _ two]
      exact ⟨registry, rfl, sameAction_closeTurn loop _⟩
  | obeying loop mode =>
      rw [advance_obeying _ one, advance_obeying _ two]
      exact ⟨registry, rfl, sameAction_obey loop mode⟩
  | stopped shown chain mode =>
      by_cases delegated : mode = .delegated
      · subst delegated
        rw [Negotiation.advance, Negotiation.advance, one, two]
        exact sameAdvance_follow abreast.settings registry shown chain _
      · rw [advance_stopped _ one delegated, advance_stopped _ two delegated]
        exact ⟨registry, rfl, sameAction_goOn (samePhase_conclude shown _)⟩
  | «over» result =>
      rw [Negotiation.advance, Negotiation.advance, one, two]
      exact ⟨registry, rfl, .stop result⟩

/-- Negotiations that are abreast of each other stay so until they end alike. -/
theorem progresses_abreast : Progresses alarms (Abreast : Moment ω σ → Moment ω σ → Prop) :=
  fun _ _ abreast => abreast.advance.progress abreast.settings abreast.clock abreast.scene

end Negotiation

end Parley
