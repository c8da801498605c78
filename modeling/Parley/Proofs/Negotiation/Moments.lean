import Parley.Negotiation.Run
import Parley.Proofs.Channel.Script

/-!
Negotiations moment by moment. Two negotiations that keep leading to moments of one kind, or to ends
that look the same, come to ends that look the same, though one may take more moments than the other.
-/

namespace Parley.Negotiation

variable {ω σ : Type} [HasFace σ] [Handler ω σ]

structure Moment (ω σ : Type) where
  negotiation : Negotiation σ
  surroundings : ω
  scene : Scene

/-- What the caller and the peer see of a negotiation that has ended. -/
def seen (ended : Ended ω σ) : Except Fault Outcome × Script × List Nat × Nat :=
  (ended.result, ended.scene.shared.channel, ended.scene.pauses, ended.scene.now)

def perform (clock : Clock) (alarms : Alarms) (scene : Scene) :
    Action (Phase σ) → Phase σ × Scene ⊕ Except Fault Outcome × Scene
  | .stop result => .inr (result, scene)
  | .lease next => .inl (next scene.lease.1, scene.lease.2)
  | .release phase => .inl (phase, scene.release)
  | .pause seconds phase =>
    let (now, fault) := alarms.sleep scene.now (clock.wake scene.now (1000 * seconds))
    let scene := { scene with now, pauses := scene.pauses ++ [seconds] }
    match fault with
    | some fault => .inr (.error fault, scene)
    | none => .inl (phase, scene)
  | .talk dialogue =>
    match scene.play dialogue with
    | (some phase, scene) => .inl (phase, scene)
    | (none, scene) =>
      .inr (.error (alarms.ring scene.now).2, { scene with now := (alarms.ring scene.now).1 })

def Moment.step (alarms : Alarms) (moment : Moment ω σ) : Moment ω σ ⊕ Ended ω σ :=
  let advanced := moment.negotiation.advance moment.surroundings
  match perform moment.negotiation.clock alarms moment.scene advanced.action with
  | .inl (phase, scene) =>
    .inl ⟨{ moment.negotiation with registry := advanced.registry, phase }, advanced.surroundings,
      scene⟩
  | .inr (result, scene) => .inr (finish result advanced.registry advanced.surroundings scene)

theorem Moment.moves {alarms : Alarms} {moment : Moment ω σ} {advanced : Advance ω σ}
    {phase : Phase σ} {scene : Scene}
    (advance : moment.negotiation.advance moment.surroundings = advanced)
    (performed :
      perform moment.negotiation.clock alarms moment.scene advanced.action = .inl (phase, scene)) :
    moment.step alarms =
      .inl ⟨{ moment.negotiation with registry := advanced.registry, phase },
        advanced.surroundings, scene⟩ := by
  rw [step, advance, performed]

theorem Moment.stops {alarms : Alarms} {moment : Moment ω σ} {advanced : Advance ω σ}
    {result : Except Fault Outcome} {scene : Scene}
    (advance : moment.negotiation.advance moment.surroundings = advanced)
    (performed :
      perform moment.negotiation.clock alarms moment.scene advanced.action = .inr (result, scene)) :
    moment.step alarms =
      .inr (finish result advanced.registry advanced.surroundings scene) := by
  rw [step, advance, performed]

/-- What a talk comes to whose last word is a phase. -/
theorem Moment.step_talk_bind {α : Type} {alarms : Alarms} {moment : Moment ω σ}
    {registry : Registry σ} {surroundings : ω} {dialogue : Dialogue α}
    {further : α → Dialogue (Phase σ)}
    (advance : moment.negotiation.advance moment.surroundings =
      ⟨registry, surroundings, .talk (dialogue.bind further)⟩) :
    moment.step alarms =
      match moment.scene.play dialogue with
      | (some value, scene) =>
        match scene.play (further value) with
        | (some phase, scene) =>
          .inl ⟨{ moment.negotiation with registry, phase }, surroundings, scene⟩
        | (none, scene) =>
          .inr (finish (.error (alarms.ring scene.now).2) registry surroundings
            { scene with now := (alarms.ring scene.now).1 })
      | (none, scene) =>
        .inr (finish (.error (alarms.ring scene.now).2) registry surroundings
          { scene with now := (alarms.ring scene.now).1 }) := by
  rw [step, advance]
  simp only [perform, Scene.play, Script.play_bind]
  rcases moment.scene.shared.channel.play dialogue with ⟨_ | value, later⟩
  · rfl
  · dsimp only
    rcases later.play (further value) with ⟨_ | phase, last⟩ <;> rfl

def Moment.end? (alarms : Alarms) (bound : Nat) (moment : Moment ω σ) : Option (Ended ω σ) :=
  runPhases alarms bound moment.negotiation moment.surroundings moment.scene

theorem Moment.end?_succ (alarms : Alarms) (bound : Nat) (moment : Moment ω σ) :
    moment.end? alarms (bound + 1) =
      match moment.step alarms with
      | .inl next => next.end? alarms bound
      | .inr ended => some ended := by
  simp only [end?, step, runPhases]
  generalize moment.negotiation.advance moment.surroundings = advanced
  rcases advanced with ⟨registry, surroundings, action⟩
  cases action with
  | stop result => rfl
  | lease next => rfl
  | release phase => rfl
  | pause seconds phase =>
      simp only [perform]
      rcases alarms.sleep moment.scene.now
        (moment.negotiation.clock.wake moment.scene.now (1000 * seconds)) with ⟨now, _ | fault⟩
      · rfl
      · rfl
  | talk dialogue =>
      simp only [perform]
      rcases moment.scene.play dialogue with ⟨_ | phase, scene⟩
      · rfl
      · rfl

section

variable {negotiation : Negotiation σ} {cancelAt : Option Nat} {scene : Scene}

theorem run_of_quiet
    (quiet : (Alarms.starting cancelAt negotiation.settings scene.now).rung scene.now = none)
    (bound : Nat) (surroundings : ω) :
    negotiation.run bound cancelAt surroundings scene =
      Moment.end? (Alarms.starting cancelAt negotiation.settings scene.now) bound
        ⟨negotiation, surroundings, scene⟩ := by
  rw [run, quiet]
  rfl

theorem run_of_early
    (early : scene.now < (Alarms.starting cancelAt negotiation.settings scene.now).first)
    (bound : Nat) (surroundings : ω) :
    negotiation.run bound cancelAt surroundings scene =
      Moment.end? (Alarms.starting cancelAt negotiation.settings scene.now) bound
        ⟨negotiation, surroundings, scene⟩ :=
  run_of_quiet (Alarms.rung_of_early early) bound surroundings

end

inductive Leads (alarms : Alarms) : Nat → Moment ω σ → Moment ω σ → Prop
  | here {moment : Moment ω σ} : Leads alarms 0 moment moment
  | step {count : Nat} {moment next last : Moment ω σ} (moves : moment.step alarms = .inl next)
      (leads : Leads alarms count next last) : Leads alarms (count + 1) moment last

variable {alarms : Alarms} {moment next last : Moment ω σ} {ended : Ended ω σ} {count bound : Nat}

theorem Moment.end?_of_moves (moves : moment.step alarms = .inl next) (bound : Nat) :
    moment.end? alarms (bound + 1) = next.end? alarms bound := by
  rw [end?_succ, moves]

theorem Moment.end?_of_stops (stops : moment.step alarms = .inr ended) (bound : Nat) :
    moment.end? alarms (bound + 1) = some ended := by
  rw [end?_succ, stops]

theorem Moment.end?_congr {other : Moment ω σ} (same : moment.step alarms = other.step alarms)
    (bound : Nat) : moment.end? alarms bound = other.end? alarms bound := by
  cases bound with
  | zero => rfl
  | succ bound => rw [end?_succ, end?_succ, same]

theorem Moment.clock_of_moves (moves : moment.step alarms = .inl next) :
    next.negotiation.clock = moment.negotiation.clock := by
  rw [step] at moves
  dsimp only at moves
  split at moves <;> cases moves
  rfl

theorem Leads.clock (leads : Leads alarms count moment last) :
    last.negotiation.clock = moment.negotiation.clock := by
  induction leads with
  | here => rfl
  | step moves _ ih => exact ih.trans (Moment.clock_of_moves moves)

theorem Leads.end?_add (leads : Leads alarms count moment last) (bound : Nat) :
    moment.end? alarms (count + bound) = last.end? alarms bound := by
  induction leads with
  | here => rw [Nat.zero_add]
  | @step count moment next last moves _ ih =>
      rw [Nat.add_right_comm, Moment.end?_of_moves moves, ih]

theorem Leads.end?_of_lt (leads : Leads alarms count moment last) (short : bound < count) :
    moment.end? alarms bound = none := by
  induction leads generalizing bound with
  | here => cases short
  | @step count moment next last moves _ ih =>
      cases bound with
      | zero => rfl
      | succ bound =>
          rw [Moment.end?_of_moves moves]
          exact ih (Nat.lt_of_succ_lt_succ short)

theorem Leads.end?_of_end? (leads : Leads alarms count moment last)
    (ends : moment.end? alarms bound = some ended) :
    ∃ less, bound = count + less ∧ last.end? alarms less = some ended := by
  rcases Nat.lt_or_ge bound count with short | enough
  · cases (leads.end?_of_lt short).symm.trans ends
  · obtain ⟨less, rfl⟩ := Nat.exists_eq_add_of_le enough
    exact ⟨less, rfl, (leads.end?_add less).symm.trans ends⟩

theorem Leads.trans {more : Nat} (leads : Leads alarms count moment next)
    (further : Leads alarms more next last) : Leads alarms (count + more) moment last := by
  induction leads with
  | here => rwa [Nat.zero_add]
  | step moves _ ih =>
      rw [Nat.add_right_comm]
      exact .step moves (ih further)

inductive Ends (alarms : Alarms) : Moment ω σ → Ended ω σ → Prop
  | stop {moment : Moment ω σ} {ended : Ended ω σ} (stops : moment.step alarms = .inr ended) :
      Ends alarms moment ended
  | step {moment next : Moment ω σ} {ended : Ended ω σ} (moves : moment.step alarms = .inl next)
      (ends : Ends alarms next ended) : Ends alarms moment ended

theorem Leads.ends (leads : Leads alarms count moment last) (ends : Ends alarms last ended) :
    Ends alarms moment ended := by
  induction leads with
  | here => exact ends
  | step moves _ ih => exact .step moves (ih ends)

theorem ends_of_end? (found : moment.end? alarms bound = some ended) :
    Ends alarms moment ended := by
  induction bound generalizing moment with
  | zero => cases found
  | succ bound ih =>
      rcases stepped : moment.step alarms with next | last
      · rw [Moment.end?_of_moves stepped] at found
        exact .step stepped (ih found)
      · rw [Moment.end?_of_stops stepped] at found
        cases found
        exact .stop stepped

theorem Ends.end? (ends : Ends alarms moment ended) :
    ∃ bound, moment.end? alarms bound = some ended := by
  induction ends with
  | stop stops => exact ⟨1, Moment.end?_of_stops stops 0⟩
  | step moves _ ih =>
      obtain ⟨bound, found⟩ := ih
      exact ⟨bound + 1, by rw [Moment.end?_of_moves moves, found]⟩

theorem Ends.unique {other : Ended ω σ} (ends : Ends alarms moment ended)
    (others : Ends alarms moment other) : ended = other := by
  induction ends with
  | stop stops =>
      cases others with
      | stop same => exact Sum.inr.inj (stops.symm.trans same)
      | step moves _ => exact absurd (stops.symm.trans moves) (by simp)
  | step moves _ ih =>
      cases others with
      | stop stops => exact absurd (moves.symm.trans stops) (by simp)
      | step same others =>
          cases Sum.inl.inj (moves.symm.trans same)
          exact ih others

def EndAlike {τ : Type} [HasFace τ] [Handler ω τ] (alarms : Alarms) (moment : Moment ω σ)
    (other : Moment ω τ) : Prop :=
  ∃ first second, Ends alarms moment first ∧ Ends alarms other second ∧ seen first = seen second

def GoOnTo {τ : Type} [HasFace τ] [Handler ω τ] (alarms : Alarms)
    (kind : Moment ω σ → Moment ω τ → Prop) (moment : Moment ω σ) (other : Moment ω τ) : Prop :=
  ∃ count more next after, Leads alarms (count + 1) moment next ∧
    Leads alarms (more + 1) other after ∧ kind next after

/-- Whatever two moments of the kind do next, they end alike or come to moments of the kind. -/
def Progresses {τ : Type} [HasFace τ] [Handler ω τ] (alarms : Alarms)
    (kind : Moment ω σ → Moment ω τ → Prop) : Prop :=
  ∀ moment other, kind moment other →
    EndAlike alarms moment other ∨ GoOnTo alarms kind moment other

variable {τ : Type} [HasFace τ] [Handler ω τ] {other : Moment ω τ}
  {kind : Moment ω σ → Moment ω τ → Prop}

theorem EndAlike.after_step {next : Moment ω τ} (moves : other.step alarms = .inl next)
    (alike : EndAlike alarms moment next) : EndAlike alarms moment other := by
  obtain ⟨first, second, one, two, same⟩ := alike
  exact ⟨first, second, one, .step moves two, same⟩

theorem GoOnTo.after_step {next : Moment ω τ} (moves : other.step alarms = .inl next)
    (goes : GoOnTo alarms kind moment next) : GoOnTo alarms kind moment other := by
  obtain ⟨count, more, last, after, one, two, related⟩ := goes
  exact ⟨count, more + 1, last, after, one, .step moves two, related⟩

theorem Progresses.swap (progresses : Progresses alarms kind) :
    Progresses alarms (fun other moment => kind moment other) := by
  intro other moment related
  rcases progresses moment other related with ⟨first, second, one, two, alike⟩ |
    ⟨count, more, next, after, one, two, related⟩
  · exact Or.inl ⟨second, first, two, one, alike.symm⟩
  · exact Or.inr ⟨more, count, after, next, two, one, related⟩

theorem Progresses.ends (progresses : Progresses alarms kind)
    (start : EndAlike alarms moment other ∨ GoOnTo alarms kind moment other)
    (ends : Ends alarms moment ended) :
    ∃ after, Ends alarms other after ∧ seen ended = seen after := by
  obtain ⟨bound, found⟩ := ends.end?
  -- The first moment has fewer steps left each time that it has gone on.
  induction bound using Nat.strongRecOn generalizing moment other with
  | ind bound ih =>
      rcases start with ⟨first, second, one, two, alike⟩ |
        ⟨count, more, next, after, one, two, related⟩
      · cases ends.unique one
        exact ⟨second, two, alike⟩
      · obtain ⟨less, rfl, reached⟩ := one.end?_of_end? found
        obtain ⟨last, ends, alike⟩ := ih less (by omega) (progresses next after related)
          (ends_of_end? reached) reached
        exact ⟨last, two.ends ends, alike⟩

/-- Negotiations that start alike come to ends that look the same, or neither comes to an end. -/
theorem Progresses.ends_iff (progresses : Progresses alarms kind)
    (goes : GoOnTo alarms kind moment other)
    (view : Except Fault Outcome × Script × List Nat × Nat) :
    (∃ ended, Ends alarms moment ended ∧ seen ended = view) ↔
      ∃ ended, Ends alarms other ended ∧ seen ended = view := by
  obtain ⟨count, more, next, after, one, two, related⟩ := goes
  constructor
  · rintro ⟨ended, ends, rfl⟩
    obtain ⟨last, found, alike⟩ := progresses.ends
      (Or.inr ⟨count, more, next, after, one, two, related⟩) ends
    exact ⟨last, found, alike.symm⟩
  · rintro ⟨ended, ends, rfl⟩
    obtain ⟨last, found, alike⟩ := progresses.swap.ends
      (Or.inr ⟨more, count, after, next, two, one, related⟩) ends
    exact ⟨last, found, alike.symm⟩

end Parley.Negotiation
