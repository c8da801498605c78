import Parley.Proofs.Negotiation.Hosting

/-!
Two negotiations of a server, one some time behind the other and with other keys. Until they ask for
a key they do the same.
-/

namespace Parley

def Scene.later (scene : Scene) (now : Nat) (slept : List Nat) : Scene :=
  { scene with now, pauses := scene.pauses ++ slept }

theorem Scene.later_now (scene : Scene) : scene.later scene.now [] = scene := by
  rw [Scene.later, List.append_nil]

theorem Scene.later_later (scene : Scene) (now next : Nat) (slept more : List Nat) :
    (scene.later now slept).later next more = scene.later next (slept ++ more) := by
  simp only [Scene.later, List.append_assoc]

theorem Scene.lease_later (scene : Scene) (now : Nat) (slept : List Nat) :
    (scene.later now slept).lease = (scene.lease.1, scene.lease.2.later now slept) := by
  simp only [Scene.lease, Scene.later]
  rcases scene.shared.lease Scene.holder with ⟨_ | _, shared⟩ <;> rfl

theorem Scene.release_later (scene : Scene) (now : Nat) (slept : List Nat) :
    (scene.later now slept).release = scene.release.later now slept := by
  rcases scene with ⟨shared, _ | _, time, pauses⟩ <;> rfl

theorem Scene.play_later {α : Type} (scene : Scene) (now : Nat) (slept : List Nat)
    (dialogue : Dialogue α) :
    (scene.later now slept).play dialogue =
      ((scene.play dialogue).1, (scene.play dialogue).2.later now slept) := rfl

theorem Alarms.ring_early {alarms : Alarms} {now : Nat} (early : now < alarms.first) :
    alarms.ring now =
      (alarms.first, (alarms.rung alarms.first).getD alarms.timeoutFault) := by
  rw [Alarms.ring, Nat.max_eq_right (Nat.le_of_lt early)]

namespace Negotiation

variable {κ : Type} {alarms : Alarms} {now : Nat} {slept : List Nat} {keys after : κ}

def Moment.later {σ : Type} (moment : Moment (Supplies κ) σ) (keys : κ) (now : Nat)
    (slept : List Nat) : Moment (Supplies κ) σ :=
  { moment with
    surroundings := moment.surroundings.stock keys
    scene := moment.scene.later now slept }

/-- Negotiations that have come to the same, though one of them has paused some more. -/
structure Matches {σ : Type} (slept : List Nat) (late soon : Ended (Supplies κ) σ) : Prop where
  result : late.result = soon.result
  nonces : late.surroundings.nonces = soon.surroundings.nonces
  channel : late.scene.shared = soon.scene.shared
  pauses : late.scene.pauses = soon.scene.pauses ++ slept

inductive Performs {σ : Type} (clock : Clock) (alarms : Alarms) (scene : Scene) (now : Nat)
    (slept : List Nat) (action : Action (Phase σ)) : Prop
  | goes {phase : Phase σ} {next : Scene}
      (performed : perform clock alarms scene action = .inl (phase, next))
      (again : perform clock alarms (scene.later now slept) action =
        .inl (phase, next.later now slept))
      (time : next.now = scene.now)
  | ends {result : Except Fault Outcome} {last other : Scene}
      (performed : perform clock alarms scene action = .inr (result, last))
      (again : perform clock alarms (scene.later now slept) action = .inr (result, other))
      (shared : other.shared = last.shared) (leased : other.leased = last.leased)
      (pauses : other.pauses = last.pauses ++ slept)

theorem perform_talk {σ : Type} (clock : Clock) (alarms : Alarms) (scene : Scene)
    (dialogue : Dialogue (Phase σ)) :
    perform clock alarms scene (.talk dialogue) =
      match scene.play dialogue with
      | (some phase, scene) => .inl (phase, scene)
      | (none, scene) =>
        .inr (.error (alarms.ring scene.now).2, { scene with now := (alarms.ring scene.now).1 }) :=
  rfl

theorem performs_later {σ : Type} {clock : Clock} {scene : Scene} {action : Action (Phase σ)}
    (calm : ∀ seconds next, action ≠ .pause seconds next) (early : scene.now < alarms.first)
    (late : now < alarms.first) : Performs clock alarms scene now slept action := by
  cases action with
  | stop result => exact .ends rfl rfl rfl rfl rfl
  | pause seconds next => exact absurd rfl (calm seconds next)
  | release next =>
      refine .goes rfl ?_ ?_
      · simp only [perform, Scene.release_later]
      · rw [Scene.release]
        split <;> rfl
  | lease next =>
      refine .goes rfl ?_ ?_
      · simp only [perform, Scene.lease_later]
      · simp only [Scene.lease]
        split <;> rfl
  | talk dialogue =>
      have time : (scene.play dialogue).2.now = scene.now := rfl
      have performed := perform_talk clock alarms scene dialogue
      have again := perform_talk clock alarms (scene.later now slept) dialogue
      rw [Scene.play_later] at again
      revert time performed again
      rcases scene.play dialogue with ⟨_ | phase, next⟩
      · intro time performed again
        have rings : alarms.ring (next.later now slept).now = alarms.ring next.now :=
          (Alarms.ring_early late).trans
            (Alarms.ring_early (Nat.lt_of_le_of_lt (Nat.le_of_eq time) early)).symm
        dsimp only at again
        rw [rings] at again
        exact .ends performed again rfl rfl rfl
      · exact fun time performed again => .goes performed again time

def Moment.inPhase {ω σ : Type} (moment : Moment ω σ) (phase : Phase σ) : Moment ω σ :=
  { moment with negotiation := { moment.negotiation with phase } }

inductive Strides {σ : Type} [HasFace σ] [Handler (Supplies κ) σ] (alarms : Alarms)
    (moment other : Moment (Supplies κ) σ) (keys after : κ) (now : Nat) (slept : List Nat) : Prop
  | goes {next : Moment (Supplies κ) σ} (moves : moment.step alarms = .inl next)
      (again : (other.later keys now slept).step alarms = .inl (next.later after now slept))
      (time : next.scene.now = moment.scene.now) : Strides alarms moment other keys after now slept
  | ends {last endLater : Ended (Supplies κ) σ} (stops : moment.step alarms = .inr last)
      (again : (other.later keys now slept).step alarms = .inr endLater)
      (same : Matches slept endLater last) : Strides alarms moment other keys after now slept

theorem strides_later {σ : Type} [HasFace σ] [Handler (Supplies κ) σ]
    {moment : Moment (Supplies κ) σ} (phase : Phase σ)
    (advance : { moment.negotiation with phase }.advance (moment.surroundings.stock keys) =
      (moment.negotiation.advance moment.surroundings).stock after)
    (calm : ∀ seconds next,
      (moment.negotiation.advance moment.surroundings).action ≠ .pause seconds next)
    (early : moment.scene.now < alarms.first) (late : now < alarms.first) :
    Strides alarms moment (moment.inPhase phase) keys after now slept := by
  have advanced : ((moment.inPhase phase).later keys now slept).negotiation.advance
      ((moment.inPhase phase).later keys now slept).surroundings = _ := advance
  have performs : Performs moment.negotiation.clock alarms moment.scene now slept _ :=
    performs_later calm early late
  cases performs with
  | goes performed again time =>
      exact .goes (Moment.moves rfl performed) (Moment.moves advanced again) time
  | ends performed again shared leased pauses =>
      refine .ends (Moment.stops rfl performed) (Moment.stops advanced again) ?_
      refine ⟨rfl, rfl, ?_, ?_⟩
      · simp only [finish, Scene.release, shared, leased]
        split
        · rfl
        · exact shared
      · simp only [finish, Scene.release, leased]
        split <;> exact pauses

theorem Strides.matches {σ : Type} [HasFace σ] [Handler (Supplies κ) σ] {bound : Nat}
    {moment other : Moment (Supplies κ) σ}
    (strides : Strides alarms moment other keys after now slept)
    (onward : ∀ next, moment.step alarms = .inl next →
      Option.Rel (Matches slept) ((next.later after now slept).end? alarms bound)
        (next.end? alarms bound)) :
    Option.Rel (Matches slept) ((other.later keys now slept).end? alarms (bound + 1))
      (moment.end? alarms (bound + 1)) := by
  cases strides with
  | goes moves again _ =>
      rw [Moment.end?_of_moves moves, Moment.end?_of_moves again]
      exact onward _ moves
  | ends stops again same =>
      rw [Moment.end?_of_stops stops, Moment.end?_of_stops again]
      exact .some same

/-! ## Servers that have not asked for a key -/

variable [KeyStore κ]

def Moment.asks? (alarms : Alarms) : Nat → Moment (Supplies κ) BuiltIn → Option String
  | 0, _ => none
  | bound + 1, moment =>
    match moment.negotiation.phase.seeks? with
    | some user => some user
    | none =>
      match moment.step alarms with
      | .inl next => next.asks? alarms bound
      | .inr _ => none

structure Hosts (alarms : Alarms) (moment : Moment (Supplies κ) BuiltIn) : Prop where
  furnished : moment.negotiation.registry.Furnished
  sound : Sound moment.negotiation.protocol moment.negotiation.phase
  serves : moment.negotiation.start.Serves
  hosting : Hosting moment.negotiation.phase
  early : moment.scene.now < alarms.first

variable {moment : Moment (Supplies κ) BuiltIn} {bound : Nat} {user : String}

theorem Hosts.strides (hosts : Hosts alarms moment)
    (unsought : moment.negotiation.phase.seeks? = none) (late : now < alarms.first) :
    Strides alarms moment moment keys keys now slept :=
  strides_later moment.negotiation.phase (advance_stock hosts.hosting hosts.serves unsought _ _)
    (action_ne_pause (κ := κ) hosts.hosting) hosts.early late

theorem Hosts.onward (hosts : Hosts alarms moment) {next : Moment (Supplies κ) BuiltIn}
    (moves : moment.step alarms = .inl next) (hosting : Hosting next.negotiation.phase) :
    Hosts alarms next := by
  have steps : Steps _ _ (moment.negotiation.advance moment.surroundings) :=
    hosts.sound.steps hosts.furnished
  have leads := Moment.leads_of_step moves
  have performs : Performs moment.negotiation.clock alarms moment.scene moment.scene.now []
      (moment.negotiation.advance moment.surroundings).action :=
    performs_later (action_ne_pause hosts.hosting) hosts.early hosts.early
  cases performs with
  | goes performed _ time =>
      cases (Moment.moves rfl performed).symm.trans moves
      refine ⟨steps.furnished, (steps.onward leads).sound, hosts.serves, hosting, ?_⟩
      rw [time]
      exact hosts.early
  | ends performed _ _ _ _ => cases (Moment.stops rfl performed).symm.trans moves

theorem Hosts.follows (hosts : Hosts alarms moment) {next : Moment (Supplies κ) BuiltIn}
    (unsought : moment.negotiation.phase.seeks? = none)
    (moves : moment.step alarms = .inl next) :
    Hosts alarms next ∧ next.surroundings.keys = moment.surroundings.keys := by
  have leads := Moment.leads_of_step moves
  refine ⟨hosts.onward moves (hosts.hosting.steps hosts.sound hosts.serves unsought leads), ?_⟩
  have kept := advance_stock hosts.hosting hosts.serves unsought moment.surroundings
    moment.surroundings.keys
  rw [Moment.surroundings_of_step moves]
  exact congrArg (fun advance => advance.surroundings.keys) kept

theorem Hosts.matches (hosts : Hosts alarms moment)
    (never : ∀ bound, moment.asks? alarms bound = none) (late : now < alarms.first) (bound : Nat) :
    Option.Rel (Matches slept) ((moment.later keys now slept).end? alarms bound)
      (moment.end? alarms bound) := by
  induction bound generalizing moment with
  | zero => exact .none
  | succ bound ih =>
      have unsought : moment.negotiation.phase.seeks? = none := by
        have asks := never 1
        rw [Moment.asks?] at asks
        split at asks
        · cases asks
        · assumption
      refine (hosts.strides unsought late).matches fun next moves => ?_
      refine ih (hosts.follows unsought moves).1 fun bound => ?_
      have asks := never (bound + 1)
      rwa [Moment.asks?, unsought, moves] at asks

theorem Hosts.asks?_later (hosts : Hosts alarms moment) (late : now < alarms.first) (bound : Nat) :
    (moment.later keys now slept).asks? alarms bound = moment.asks? alarms bound := by
  induction bound generalizing moment with
  | zero => rfl
  | succ bound ih =>
      have same : (moment.later keys now slept).negotiation.phase = moment.negotiation.phase := rfl
      rw [Moment.asks?, Moment.asks?, same]
      rcases sought : moment.negotiation.phase.seeks? with _ | user
      · have strides : Strides alarms moment moment keys keys now slept :=
          hosts.strides sought late
        cases strides with
        | goes moves again _ =>
            rw [moves, again]
            exact ih (hosts.follows sought moves).1
        | ends stops again _ => rw [stops, again]
      · rfl

theorem Moment.asks?_unique {first second : String} {one two : Nat}
    (once : moment.asks? alarms one = some first) (again : moment.asks? alarms two = some second) :
    first = second := by
  induction one generalizing moment two with
  | zero => cases once
  | succ one ih =>
      cases two with
      | zero => cases again
      | succ two =>
          rcases sought : moment.negotiation.phase.seeks? with _ | user
          · rcases stepped : moment.step alarms with next | ended
            · rw [asks?, sought, stepped] at once again
              exact ih once again
            · rw [asks?, sought, stepped] at once
              cases once
          · rw [asks?, sought] at once again
            exact Option.some.inj (once.symm.trans again)

/-- Servers with different keys come to ask for the same key at once. -/
theorem Hosts.asked (hosts : Hosts alarms moment) (keys : κ) (slept : List Nat)
    (late : now < alarms.first) (asks : moment.asks? alarms bound = some user) :
    ∃ count before, Leads alarms count moment before ∧
      Leads alarms count (moment.later keys now slept) (before.later keys now slept) ∧
      before.negotiation.phase.seeks? = some user ∧ Hosts alarms before ∧
      before.surroundings.keys = moment.surroundings.keys ∧
      before.scene.now = moment.scene.now := by
  induction bound generalizing moment with
  | zero => cases asks
  | succ bound ih =>
      rcases sought : moment.negotiation.phase.seeks? with _ | found
      · have strides : Strides alarms moment moment keys keys now slept :=
          hosts.strides sought late
        cases strides with
        | goes moves again time =>
            rw [Moment.asks?, sought, moves] at asks
            obtain ⟨follows, kept⟩ := hosts.follows sought moves
            obtain ⟨count, before, leads, others, seeks, held, keysEq, nowEq⟩ := ih follows asks
            exact ⟨count + 1, before, .step moves leads, .step again others, seeks, held,
              keysEq.trans kept, nowEq.trans time⟩
        | ends stops _ _ =>
            rw [Moment.asks?, sought, stops] at asks
            cases asks
      · rw [Moment.asks?, sought] at asks
        cases asks
        exact ⟨0, moment, .here, .here, sought, hosts, rfl, rfl⟩

end Negotiation

end Parley
