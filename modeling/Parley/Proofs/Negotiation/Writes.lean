import Parley.Proofs.Negotiation.Moments

/-!
What a negotiation has written. Nothing of it is ever taken back, so what was written at one moment
is a prefix of what is written at any later one.
-/

namespace Parley

namespace Script

theorem written_write (script : Script) (bytes : Bytes) :
    script.written <+: (script.write bytes).2.written := by
  rw [write]
  split
  · exact List.prefix_refl _
  · simp only [written, List.filterMap_append]
    exact List.prefix_append _ _

theorem written_play {α : Type} (dialogue : Dialogue α) (script : Script) :
    script.written <+: (script.play dialogue).2.written := by
  induction dialogue generalizing script with
  | done value => exact List.prefix_refl _
  | write bytes next ih =>
      rw [play]
      exact (script.written_write bytes).trans (ih _ _)
  | read limit next ih =>
      have kept : (script.read limit).2.written = script.written := rfl
      rw [play]
      rcases taken : script.read limit with ⟨_ | answer, later⟩
      · rw [taken] at kept
        exact kept ▸ List.prefix_refl _
      · rw [taken] at kept
        exact kept ▸ ih answer later

end Script

namespace Scene

def written (scene : Scene) : List Bytes := scene.shared.channel.written

theorem written_lease (scene : Scene) : scene.lease.2.written = scene.written := by
  rw [lease, Shared.lease]
  split
  · rename_i granted
    split at granted <;> cases granted
    rfl
  · rfl

theorem written_release (scene : Scene) : scene.release.written = scene.written := by
  rw [release]
  split <;> rfl

theorem now_lease (scene : Scene) : scene.lease.2.now = scene.now := by
  rw [lease]
  split <;> rfl

theorem now_release (scene : Scene) : scene.release.now = scene.now := by
  rw [release]
  split <;> rfl

end Scene

namespace Negotiation

variable {ω σ : Type}

def sceneAfter (performed : Phase σ × Scene ⊕ Except Fault Outcome × Scene) : Scene :=
  performed.elim Prod.snd Prod.snd

theorem written_perform (clock : Clock) (alarms : Alarms) (scene : Scene)
    (action : Action (Phase σ)) :
    scene.written <+: (sceneAfter (perform clock alarms scene action)).written := by
  cases action with
  | stop result => exact List.prefix_refl _
  | lease next =>
      exact scene.written_lease ▸ List.prefix_refl _
  | release phase =>
      exact scene.written_release ▸ List.prefix_refl _
  | pause seconds phase =>
      simp only [perform]
      split <;> exact List.prefix_refl _
  | talk dialogue =>
      have grown : scene.written <+: (scene.play dialogue).2.written :=
        Script.written_play dialogue scene.shared.channel
      simp only [perform]
      revert grown
      rcases scene.play dialogue with ⟨_ | phase, later⟩ <;> exact id

variable [HasFace σ] [Handler ω σ]

namespace Moment

variable {alarms : Alarms} {moment next : Moment ω σ} {ended : Ended ω σ} {bound more : Nat}

def sceneNext (alarms : Alarms) (moment : Moment ω σ) : Scene :=
  sceneAfter (perform moment.negotiation.clock alarms moment.scene
    (moment.negotiation.advance moment.surroundings).action)

theorem scene_of_moves (moves : moment.step alarms = .inl next) :
    next.scene = moment.sceneNext alarms := by
  rw [step] at moves
  rw [sceneNext]
  split at moves
  · rename_i performed
    rw [performed]
    cases moves
    rfl
  · cases moves

theorem scene_of_stops (stops : moment.step alarms = .inr ended) :
    ended.scene = (moment.sceneNext alarms).release := by
  rw [step] at stops
  rw [sceneNext]
  split at stops
  · cases stops
  · rename_i performed
    rw [performed]
    cases stops
    rfl

theorem written_sceneNext (alarms : Alarms) (moment : Moment ω σ) :
    moment.scene.written <+: (moment.sceneNext alarms).written :=
  written_perform moment.negotiation.clock alarms moment.scene _

def writtenWithin (alarms : Alarms) : Nat → Moment ω σ → List Bytes
  | 0, moment => moment.scene.written
  | bound + 1, moment =>
    match moment.step alarms with
    | .inl next => writtenWithin alarms bound next
    | .inr ended => ended.scene.written

theorem written_within (alarms : Alarms) (bound : Nat) (moment : Moment ω σ) :
    moment.scene.written <+: moment.writtenWithin alarms bound := by
  induction bound generalizing moment with
  | zero => exact List.prefix_refl _
  | succ bound ih =>
      have grown := written_sceneNext alarms moment
      rw [writtenWithin]
      split
      · rename_i next moves
        rw [← scene_of_moves moves] at grown
        exact grown.trans (ih next)
      · rename_i ended stops
        rw [scene_of_stops stops, Scene.written_release]
        exact grown

theorem written_within_next (alarms : Alarms) (bound : Nat) (moment : Moment ω σ) :
    (moment.sceneNext alarms).written <+: moment.writtenWithin alarms (bound + 1) := by
  rw [writtenWithin]
  split
  · rename_i next moves
    rw [← scene_of_moves moves]
    exact written_within alarms bound next
  · rename_i ended stops
    have same : ended.scene.written = (moment.sceneNext alarms).written := by
      rw [scene_of_stops stops, Scene.written_release]
    exact same ▸ List.prefix_refl _

theorem end?_of_le (ends : moment.end? alarms bound = some ended) (enough : bound ≤ more) :
    moment.end? alarms more = some ended ∧
      moment.writtenWithin alarms more = ended.scene.written := by
  induction bound generalizing moment more with
  | zero => cases ends
  | succ bound ih =>
      obtain ⟨more, rfl⟩ := Nat.exists_eq_add_of_le' (Nat.le_trans (Nat.succ_pos bound) enough)
      rw [end?_succ] at ends
      rw [end?_succ, writtenWithin]
      rcases stepped : moment.step alarms with next | last
      · rw [stepped] at ends
        exact ih ends (Nat.le_of_succ_le_succ enough)
      · rw [stepped] at ends
        cases ends
        exact ⟨rfl, rfl⟩

end Moment

section

variable {negotiation : Negotiation σ} {cancelAt : Option Nat} {surroundings : ω} {scene : Scene}
  {fault : Fault} {ended : Ended ω σ} {bound more : Nat}

/-- What a run has written after so many phases, or when it ended. -/
def writtenWithin (bound : Nat) (cancelAt : Option Nat) (negotiation : Negotiation σ)
    (surroundings : ω) (scene : Scene) : List Bytes :=
  let alarms := Alarms.starting cancelAt negotiation.settings scene.now
  match alarms.rung scene.now with
  | some _ => scene.written
  | none => Moment.writtenWithin alarms bound ⟨negotiation, surroundings, scene⟩

theorem writtenWithin_of_quiet
    (quiet : (Alarms.starting cancelAt negotiation.settings scene.now).rung scene.now = none)
    (bound : Nat) (surroundings : ω) :
    negotiation.writtenWithin bound cancelAt surroundings scene =
      Moment.writtenWithin (Alarms.starting cancelAt negotiation.settings scene.now) bound
        ⟨negotiation, surroundings, scene⟩ := by
  rw [writtenWithin, quiet]

theorem run_of_rung
    (rung : (Alarms.starting cancelAt negotiation.settings scene.now).rung scene.now = some fault)
    (bound : Nat) (surroundings : ω) :
    negotiation.run bound cancelAt surroundings scene =
        some ⟨.error fault, negotiation.registry, surroundings, scene⟩ ∧
      negotiation.writtenWithin bound cancelAt surroundings scene = scene.written := by
  rw [run, writtenWithin, rung]
  exact ⟨rfl, rfl⟩

theorem run_of_cancelled {time : Nat} (cancelled : time ≤ scene.now) (bound : Nat)
    (surroundings : ω) :
    negotiation.run bound (some time) surroundings scene =
      some ⟨.error .cancelled, negotiation.registry, surroundings, scene⟩ := by
  refine (run_of_rung ?_ bound surroundings).1
  simp [Alarms.starting, Alarms.rung, cancelled]

theorem run_of_le (ends : negotiation.run bound cancelAt surroundings scene = some ended)
    (enough : bound ≤ more) :
    negotiation.run more cancelAt surroundings scene = some ended ∧
      negotiation.writtenWithin more cancelAt surroundings scene = ended.scene.written := by
  rcases rung : (Alarms.starting cancelAt negotiation.settings scene.now).rung scene.now with
    _ | fault
  · rw [run_of_quiet rung] at ends
    rw [run_of_quiet rung, writtenWithin_of_quiet rung]
    exact Moment.end?_of_le ends enough
  · rw [(run_of_rung rung bound surroundings).1] at ends
    cases ends
    exact run_of_rung rung more surroundings

theorem written_le_writtenWithin (negotiation : Negotiation σ) (cancelAt : Option Nat)
    (surroundings : ω) (scene : Scene) (bound : Nat) :
    scene.written <+: negotiation.writtenWithin bound cancelAt surroundings scene := by
  rw [writtenWithin]
  split
  · exact List.prefix_refl _
  · exact Moment.written_within _ bound ⟨negotiation, surroundings, scene⟩

end

end Negotiation

end Parley
