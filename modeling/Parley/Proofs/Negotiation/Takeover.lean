import Parley.Proofs.Handler.Sum
import Parley.Proofs.Negotiation.Abreast
import Parley.Proofs.SharedKey.Twins

/-!
A takeover beside a blob loop. One round of a shared-key handler's takeover does what two phases of
the blob loop of its twin do: the call, and what the mode asks for.
-/

namespace Parley.Negotiation

open SharedKey

variable {κ σ : Type} [KeyStore κ] [HasFace σ] [Handler (Supplies κ) σ]

def pursue (inject : SharedKey → σ) : SharedKey × Option Answer → Phase σ
  | (handler, none) => .takingOver (inject handler) false
  | (_, some (.error fault)) => .over (.error fault)
  | (handler, some (.ok mode)) => .tookOver (inject handler) mode

def landing (alarms : Alarms) (inject : SharedKey → σ) (middle : Moment (Supplies κ) σ) :
    Option (SharedKey × Option Answer) × Scene → Moment (Supplies κ) σ ⊕ Ended (Supplies κ) σ
  | (some result, scene) =>
    .inl ⟨{ middle.negotiation with phase := pursue inject result }, middle.surroundings, scene⟩
  | (none, scene) =>
    .inr (finish (.error (alarms.ring scene.now).2) middle.negotiation.registry
      middle.surroundings { scene with now := (alarms.ring scene.now).1 })

/-- A handler in a takeover beside the blob loop of its twin. -/
structure Level (inject : SharedKey → σ) (first : SharedKey) (loop : BlobLoop σ) : Prop where
  twin : ∃ second, loop.handler = inject second ∧ Twins first second
  desk : first.desk.capacity = takeoverCapacity
  blob : loop.blob.capacity = takeoverCapacity
  consuming : first.consuming = true →
    loop.call = .consume ∧ pending first.desk = pending loop.blob
  producing : first.consuming = false → loop.call = .produce

structure Beside (moment other : Moment (Supplies κ) σ) : Prop where
  settings : moment.negotiation.settings = other.negotiation.settings
  clock : moment.negotiation.clock = other.negotiation.clock
  registry : Registry.Alike moment.negotiation.registry other.negotiation.registry
  surroundings : moment.surroundings = other.surroundings
  scene : Scene.Alike moment.scene other.scene
  leased : moment.scene.leased = true

structure Trading (inject : SharedKey → σ) (first : SharedKey) (loop : BlobLoop σ)
    (moment other : Moment (Supplies κ) σ) : Prop where
  beside : Beside moment other
  phase : moment.negotiation.phase = .takingOver (inject first) false
  calling : other.negotiation.phase = .calling loop
  level : Level inject first loop
  chain : loop.chain = [moment.negotiation.protocol]

/-- Moments of a takeover and a blob loop, or of two blob loops, that will look the same. -/
def Together (inject : SharedKey → σ) (moment other : Moment (Supplies κ) σ) : Prop :=
  (∃ first loop, Trading inject first loop moment other) ∨ Abreast moment other

variable {alarms : Alarms} {inject : SharedKey → σ} {moment middle other : Moment (Supplies κ) σ}

section

variable {handler : SharedKey} {loop : BlobLoop σ}

omit [KeyStore κ] [HasFace σ] [Handler (Supplies κ) σ]

theorem Level.load (level : Level inject handler loop) (frame : Bytes) :
    Level inject { handler with desk := handler.desk.load frame, consuming := true }
      { loop with blob := loop.blob.load frame, call := .consume } := by
  have capacity : handler.desk.capacity = loop.blob.capacity := level.desk.trans level.blob.symm
  have start (blob : Blob) : pending (blob.load frame) = frame.take blob.capacity := by
    rw [pending, Blob.contents_load]
    rfl
  obtain ⟨second, carried, twins⟩ := level.twin
  refine ⟨⟨second, carried, twins.redesk _ _⟩, ?_, ?_, fun _ => ⟨rfl, ?_⟩, by simp⟩
  · exact (Blob.capacity_load _ _).trans level.desk
  · exact (Blob.capacity_load _ _).trans level.blob
  · dsimp only
    rw [start, start, capacity]

theorem Level.produces (level : Level inject handler loop) :
    Level inject { handler with consuming := false } { loop with call := .produce } := by
  obtain ⟨second, carried, twins⟩ := level.twin
  exact ⟨⟨second, carried, twins.redesk _ _⟩, level.desk, level.blob, by simp, fun _ => rfl⟩

end

/-! ## One step of a takeover -/

theorem step_takingOver (alarms : Alarms) (carries : Handler.Carries (Supplies κ) inject)
    {handler : SharedKey}
    {fresh : Bool} (phase : moment.negotiation.phase = .takingOver (inject handler) fresh)
    {stretch : Stretch (Supplies κ) SharedKey}
    (ran : stretch = if fresh then handler.takeOver moment.surroundings
      else handler.carryOn moment.surroundings) :
    moment.step alarms =
      landing alarms inject { moment with surroundings := stretch.surroundings }
        (moment.scene.play stretch.dialogue) := by
  have carried : (if fresh then Handler.takeOver (inject handler) moment.surroundings
      else Handler.carryOn (inject handler) moment.surroundings : Stretch (Supplies κ) σ) =
      Handler.mapStretch inject stretch := by
    rw [ran]
    split
    · exact carries.takeOver _ _
    · exact carries.carryOn _ _
  rw [Moment.step, advance, phase]
  dsimp only
  rw [takeOver, carried]
  dsimp only [Handler.mapStretch, perform]
  rw [Scene.play_bind, Scene.play_bind]
  rcases moment.scene.play stretch.dialogue with ⟨_ | ⟨handler, _ | fault | mode⟩, later⟩ <;> rfl

/-! ## Obeying a mode -/

omit [KeyStore κ] in
theorem step_obeying (alarms : Alarms) {loop : BlobLoop σ} {mode : Mode}
    (phase : other.negotiation.phase = .obeying loop mode) :
    other.step alarms =
      match perform other.negotiation.clock alarms other.scene (obey loop mode) with
      | .inl (phase, scene) =>
        .inl ⟨{ other.negotiation with phase }, other.surroundings, scene⟩
      | .inr (result, scene) =>
        .inr (finish result other.negotiation.registry other.surroundings scene) := by
  have advanced := advance_obeying other.surroundings phase
  rcases performed : perform other.negotiation.clock alarms other.scene (obey loop mode) with
    ⟨next, scene⟩ | ⟨result, scene⟩
  · exact Moment.moves advanced performed
  · exact Moment.stops advanced performed

omit [KeyStore κ] in
theorem trading_of_steps {next : SharedKey} {after : BlobLoop σ} {scene later : Scene}
    (beside : Beside middle other)
    (moves : moment.step alarms =
      .inl ⟨{ middle.negotiation with phase := .takingOver (inject next) false },
        middle.surroundings, scene⟩)
    (others : other.step alarms =
      .inl ⟨{ other.negotiation with phase := .calling after }, other.surroundings, later⟩)
    (alike : Scene.Alike scene later) (leased : scene.leased = true)
    (level : Level inject next after) (chain : after.chain = [middle.negotiation.protocol]) :
    GoOnTo alarms (Together inject) moment other := by
  refine ⟨0, 0, _, _, .step moves .here, .step others .here, Or.inl ⟨next, after, ?_⟩⟩
  exact ⟨⟨beside.settings, beside.clock, beside.registry, beside.surroundings, alike, leased⟩, rfl,
    rfl, level, chain⟩

omit [KeyStore κ] in
theorem abreast_of_steps {phase next : Phase σ} {scene later : Scene} (beside : Beside middle other)
    (moves : moment.step alarms =
      .inl ⟨{ middle.negotiation with phase }, middle.surroundings, scene⟩)
    (others : other.step alarms =
      .inl ⟨{ other.negotiation with phase := next }, other.surroundings, later⟩)
    (alike : Scene.Alike scene later) (same : SamePhase phase next) :
    GoOnTo alarms (Together inject) moment other := by
  refine ⟨0, 0, _, _, .step moves .here, .step others .here, Or.inr ?_⟩
  exact ⟨beside.settings, beside.clock, beside.registry, same, beside.surroundings, alike⟩

variable {handler : SharedKey} {loop : BlobLoop σ}

omit [KeyStore κ] in
theorem obey_needData
    (stepped : moment.step alarms =
      landing alarms inject middle (middle.scene.play (handler.obey .needData)))
    (beside : Beside middle other) (phase : other.negotiation.phase = .obeying loop .needData)
    (level : Level inject handler loop) (chain : loop.chain = [middle.negotiation.protocol]) :
    EndAlike alarms moment other ∨ GoOnTo alarms (Together inject) moment other := by
  have others : other.step alarms = _ :=
    Moment.step_talk_bind (advance_obeying other.surroundings phase)
  have capacity : handler.desk.capacity = loop.blob.capacity := level.desk.trans level.blob.symm
  have same := beside.scene.play (Frame.receive loop.blob.capacity)
  have leased : (middle.scene.play (Frame.receive loop.blob.capacity)).2.leased = true :=
    beside.leased
  rw [SharedKey.obey, Scene.play_bind, capacity] at stepped
  generalize middle.scene.play (Frame.receive loop.blob.capacity) = first at same leased stepped
  generalize other.scene.play (Frame.receive loop.blob.capacity) = second at same others
  obtain ⟨received, scene⟩ := first
  obtain ⟨_, later⟩ := second
  obtain ⟨rfl, (alike : Scene.Alike scene later)⟩ := same
  rcases received with _ | fault | frame
  · refine Or.inl ⟨_, _, .stop stepped, .stop others, ?_⟩
    simp only [seen_finish, alike.now, alike.channel, alike.pauses]
  · exact Or.inr (abreast_of_steps beside stepped others alike (.over _))
  · exact Or.inr (trading_of_steps beside stepped others alike leased (level.load frame) chain)

omit [KeyStore κ] in
theorem obey_pendingData
    (stepped : moment.step alarms =
      landing alarms inject middle (middle.scene.play (handler.obey .pendingData)))
    (beside : Beside middle other) (phase : other.negotiation.phase = .obeying loop .pendingData)
    (level : Level inject handler loop) (chain : loop.chain = [middle.negotiation.protocol]) :
    GoOnTo alarms (Together inject) moment other :=
  trading_of_steps beside stepped (step_obeying alarms phase) beside.scene beside.leased
    level.produces chain

omit [KeyStore κ] in
theorem obey_continue
    (stepped : moment.step alarms =
      landing alarms inject middle (middle.scene.play (handler.obey .continue)))
    (beside : Beside middle other) (phase : other.negotiation.phase = .obeying loop .continue)
    (level : Level inject handler loop) (chain : loop.chain = [middle.negotiation.protocol]) :
    GoOnTo alarms (Together inject) moment other :=
  trading_of_steps beside stepped (step_obeying alarms phase) beside.scene beside.leased level chain

/--
After a pause the takeover is opened anew with a blank blob, while the blob loop repeats its call
with the blob that it has; nothing is pending in either.
-/
theorem obey_wait (carries : Handler.Carries (Supplies κ) inject) {seconds : Nat}
    (stepped : moment.step alarms =
      landing alarms inject middle (middle.scene.play (handler.obey (.wait seconds))))
    (beside : Beside middle other)
    (phase : other.negotiation.phase = .obeying loop (.wait seconds))
    (level : Level inject handler loop) (taken : handler.consuming = true → pending loop.blob = [])
    (chain : loop.chain = [middle.negotiation.protocol]) :
    EndAlike alarms moment other ∨ GoOnTo alarms (Together inject) moment other := by
  let pausing : Moment (Supplies κ) σ :=
    { middle with
      negotiation :=
        { middle.negotiation with phase := .tookOver (inject handler) (.wait seconds) } }
  have moves : moment.step alarms = .inl pausing := stepped
  have advance : pausing.negotiation.advance pausing.surroundings =
      ⟨middle.negotiation.registry, middle.surroundings,
        .pause seconds (.takingOver (inject handler) true)⟩ := rfl
  have obeyed : other.negotiation.advance other.surroundings =
      ⟨other.negotiation.registry, other.surroundings, .pause seconds (.calling loop)⟩ :=
    advance_obeying other.surroundings phase
  rcases perform_pause middle.negotiation.clock alarms beside.scene seconds
    (.takingOver (inject handler) true) (.calling loop) with
    ⟨fault, after, later, stopped, ended, alike⟩ | ⟨after, later, slept, woken, alike, leased⟩
  · rw [beside.clock] at ended
    refine Or.inl ⟨_, _, .step moves (.stop (Moment.stops advance stopped)),
      .stop (Moment.stops obeyed ended), ?_⟩
    exact seen_finish_alike alike _ _ _ _ _
  · rw [beside.clock] at woken
    obtain ⟨second, carried, twins⟩ := level.twin
    let reopening : Moment (Supplies κ) σ :=
      { middle with
        negotiation :=
          { middle.negotiation with phase := .takingOver (inject handler) true }
        scene := after }
    have paused : pausing.step alarms = .inl reopening := Moment.moves advance slept
    have opened : reopening.step alarms = _ := step_takingOver alarms carries rfl rfl
    rw [if_pos rfl, takeOver_of_enter twins.enter] at opened
    refine Or.inr ⟨2, 0, _, _, .step moves (.step paused (.step opened .here)),
      .step (Moment.moves obeyed woken) .here,
      Or.inl ⟨{ handler with desk := Blob.blank takeoverCapacity }, loop, ?_⟩⟩
    refine ⟨⟨beside.settings, beside.clock, beside.registry, beside.surroundings, alike,
      leased.trans beside.leased⟩, rfl, rfl, ?_, chain⟩
    refine ⟨⟨second, carried, twins.redesk _ _⟩, Blob.capacity_blank _, level.blob,
      fun consuming => ?_, level.producing⟩
    exact ⟨(level.consuming consuming).1, (pending_blank _).trans (taken consuming).symm⟩

/-! ## Stopping -/

omit [KeyStore κ] in
theorem step_tookOver (alarms : Alarms) {taken : σ} {mode : Mode}
    (phase : moment.negotiation.phase = .tookOver taken mode)
    (ended : ∀ seconds, mode ≠ .wait seconds) :
    moment.step alarms =
      .inl { moment with
        negotiation := { moment.negotiation with phase := .tookOverFree taken mode }
        scene := moment.scene.release } := by
  rw [Moment.step, advance_tookOver _ phase ended]
  rfl

omit [KeyStore κ] in
theorem step_claiming (alarms : Alarms) {next : Phase σ}
    (phase : moment.negotiation.phase = .claiming next)
    (granted : moment.scene.lease.1 = true) :
    moment.step alarms =
      .inl { moment with
        negotiation := { moment.negotiation with phase := next }
        scene := moment.scene.lease.2 } := by
  have advance : moment.negotiation.advance moment.surroundings =
      ⟨moment.negotiation.registry, moment.surroundings,
        .lease fun granted => if granted then next else .over (.error .channelBusy)⟩ := by
    rw [Negotiation.advance, phase]
  have performed : perform moment.negotiation.clock alarms moment.scene
      (.lease fun granted => if granted then next else .over (.error .channelBusy)) =
      .inl (next, moment.scene.lease.2) := by
    rw [perform, granted]
    rfl
  exact Moment.moves advance performed

omit [KeyStore κ] in
theorem obey_end {mode : Mode} (ended : mode = .success ∨ mode = .failed ∨ mode = .noIdentity)
    (stepped : moment.step alarms =
      landing alarms inject middle (middle.scene.play (handler.obey mode)))
    (beside : Beside middle other) (phase : other.negotiation.phase = .obeying loop mode)
    (shown : face (inject handler) = face loop.handler) :
    GoOnTo alarms (Together inject) moment other := by
  let stopping : Moment (Supplies κ) σ :=
    { middle with
      negotiation := { middle.negotiation with phase := .tookOver (inject handler) mode } }
  let freed : Moment (Supplies κ) σ :=
    { middle with
      negotiation := { middle.negotiation with phase := .tookOverFree (inject handler) mode }
      scene := middle.scene.release }
  let concluded : Moment (Supplies κ) σ :=
    { freed with
      negotiation := { middle.negotiation with phase := conclude (inject handler) mode } }
  let stopped : Moment (Supplies κ) σ :=
    { other with
      negotiation := { other.negotiation with phase := .stopped loop.handler loop.chain mode } }
  let last : Moment (Supplies κ) σ :=
    { other with negotiation := { other.negotiation with phase := conclude loop.handler mode } }
  have moves : moment.step alarms = .inl stopping := by
    rw [stepped]
    rcases ended with rfl | rfl | rfl <;> rfl
  have release : stopping.step alarms = .inl freed :=
    step_tookOver alarms rfl (by rcases ended with rfl | rfl | rfl <;> simp)
  have conclusion : freed.step alarms = .inl concluded := by
    rcases ended with rfl | rfl | rfl <;> rfl
  have stops : other.step alarms = .inl stopped := by
    rw [step_obeying alarms phase]
    rcases ended with rfl | rfl | rfl <;> rfl
  have concludes : stopped.step alarms = .inl last := by
    rcases ended with rfl | rfl | rfl <;> rfl
  refine ⟨2, 1, concluded, last, .step moves (.step release (.step conclusion .here)),
    .step stops (.step concludes .here), Or.inr ?_⟩
  exact ⟨beside.settings, beside.clock, beside.registry, samePhase_conclude shown mode,
    beside.surroundings, beside.scene.release⟩

omit [KeyStore κ] in
theorem obey_delegated
    (stepped : moment.step alarms =
      landing alarms inject middle (middle.scene.play (handler.obey .delegated)))
    (beside : Beside middle other) (phase : other.negotiation.phase = .obeying loop .delegated)
    (shown : face (inject handler) = face loop.handler)
    (chain : loop.chain = [middle.negotiation.protocol]) :
    GoOnTo alarms (Together inject) moment other := by
  let stopping : Moment (Supplies κ) σ :=
    { middle with
      negotiation := { middle.negotiation with phase := .tookOver (inject handler) .delegated } }
  let freed : Moment (Supplies κ) σ :=
    { middle with
      negotiation := { middle.negotiation with phase := .tookOverFree (inject handler) .delegated }
      scene := middle.scene.release }
  let claiming : Moment (Supplies κ) σ :=
    { freed with
      negotiation :=
        { middle.negotiation with
          phase := .claiming
            (.stopped (inject handler) [middle.negotiation.protocol] .delegated) } }
  obtain ⟨granted, _, alike⟩ :=
    beside.scene.release.lease (Scene.holder_release beside.leased)
  have moves : moment.step alarms = .inl stopping := stepped
  have release : stopping.step alarms = .inl freed := step_tookOver alarms rfl (by simp)
  have claims : freed.step alarms = .inl claiming := rfl
  have leases : claiming.step alarms = _ := step_claiming alarms rfl granted
  refine ⟨3, 0, _, _, .step moves (.step release (.step claims (.step leases .here))),
    .step (step_obeying alarms phase) .here, Or.inr ?_⟩
  refine ⟨beside.settings, beside.clock, beside.registry, ?_, beside.surroundings, alike⟩
  rw [chain]
  exact .stopped shown _ _

/-! ## One round -/

structure Turned (inject : SharedKey → σ) (handler : SharedKey) (loop : BlobLoop σ) (mode : Mode) :
    Prop where
  shown : face (inject handler) = face loop.handler
  level : mode.isFinal = false → Level inject handler loop
  taken : handler.consuming = true → pending loop.blob = []
  supported : mode ≠ .notSupported
  more : mode ≠ .noMoreData

theorem obey_progress (carries : Handler.Carries (Supplies κ) inject) {mode : Mode}
    (stepped : moment.step alarms =
      landing alarms inject middle (middle.scene.play (handler.obey mode)))
    (beside : Beside middle other) (phase : other.negotiation.phase = .obeying loop mode)
    (turned : Turned inject handler loop mode)
    (chain : loop.chain = [middle.negotiation.protocol]) :
    EndAlike alarms moment other ∨ GoOnTo alarms (Together inject) moment other := by
  cases mode with
  | needData => exact obey_needData stepped beside phase (turned.level rfl) chain
  | pendingData => exact Or.inr (obey_pendingData stepped beside phase (turned.level rfl) chain)
  | «continue» => exact Or.inr (obey_continue stepped beside phase (turned.level rfl) chain)
  | wait seconds =>
      exact obey_wait carries stepped beside phase (turned.level rfl) turned.taken chain
  | success => exact Or.inr (obey_end (by simp) stepped beside phase turned.shown)
  | failed => exact Or.inr (obey_end (by simp) stepped beside phase turned.shown)
  | noIdentity => exact Or.inr (obey_end (by simp) stepped beside phase turned.shown)
  | delegated => exact Or.inr (obey_delegated stepped beside phase turned.shown chain)
  | notSupported => exact absurd rfl turned.supported
  | noMoreData => exact absurd rfl turned.more

/-- The work of one round, and the turn of the twin's blob loop that matches it. -/
structure SameRound (inject : SharedKey → σ) (first : SharedKey) (loop : BlobLoop σ)
    (turn : Turn (Supplies κ) SharedKey) (other : Turn (Supplies κ) σ) : Prop where
  answer : other.answer = turn.answer
  surroundings : other.surroundings = turn.surroundings
  contents : first.consuming = false → turn.blob.contents = other.blob.contents
  turned : ∀ mode, turn.answer = .ok mode →
    Turned inject { turn.handler with desk := turn.blob } (loop.after other) mode

theorem turnOf_eq (carries : Handler.Carries (Supplies κ) inject) {first second : SharedKey}
    (level : Level inject first loop) (carried : loop.handler = inject second)
    (twins : Twins first second) (supplies : Supplies κ) :
    let turn := first.round supplies
    ∃ blob, turnOf loop supplies =
        ⟨turn.answer,
          inject ((turn.handler.dress (some .blob) second.desk second.consuming).settle
            turn.answer), blob, turn.surroundings⟩ ∧
      turn.blob.capacity = takeoverCapacity ∧ blob.capacity = takeoverCapacity ∧
      (first.consuming = false → turn.blob.contents = blob.contents) ∧
      (first.consuming = true → pending turn.blob = [] ∧ pending blob = []) := by
  intro turn
  cases consuming : first.consuming with
  | true =>
      obtain ⟨call, same⟩ := level.consuming consuming
      have round : turn = first.read first.desk supplies := if_pos consuming
      have loaded : turn.blob = first.desk.taken :=
        (congrArg Turn.blob round).trans (blob_read first first.desk supplies)
      have kept : (first.read loop.blob supplies).blob = loop.blob.taken :=
        blob_read first loop.blob supplies
      obtain ⟨answer, handler, surroundings⟩ := read_pending first supplies same
      refine ⟨loop.blob.taken, ?_, ?_, level.blob, nofun, fun _ => ⟨?_, Blob.unread_taken _⟩⟩
      · rw [turnOf, call, carried, round, answer, handler, surroundings, ← kept]
        exact (carries.consume second loop.blob supplies).trans
          (congrArg (Handler.mapTurn inject) (twins.consume loop.blob supplies))
      · rw [loaded]
        exact level.desk
      · rw [loaded]
        exact Blob.unread_taken _
  | false =>
      have call := level.producing consuming
      have capacity : first.desk.capacity = loop.blob.capacity := level.desk.trans level.blob.symm
      have round : turn = first.write first.desk.clear supplies :=
        if_neg (by rw [consuming]; decide)
      obtain ⟨same, kept⟩ := write_capacity first supplies capacity
      obtain ⟨_, others⟩ := write_capacity first supplies capacity.symm
      refine ⟨(first.write loop.blob.clear supplies).blob, ?_, ?_, others.trans level.blob,
        fun _ => ?_, nofun⟩
      · rw [turnOf, call, carried, round, same.answer, same.handler, same.surroundings]
        exact (carries.produce second loop.blob.clear supplies).trans
          (congrArg (Handler.mapTurn inject) (twins.produce loop.blob.clear supplies))
      · rw [round]
        exact kept.trans level.desk
      · rw [round]
        exact same.contents

theorem Level.round (carries : Handler.Carries (Supplies κ) inject)
    (shows : ∀ handler, face (inject handler) = face handler) {first : SharedKey}
    (level : Level inject first loop) (supplies : Supplies κ) :
    SameRound inject first loop (first.round supplies) (turnOf loop supplies) := by
  obtain ⟨second, carried, twins⟩ := level.twin
  obtain ⟨blob, same, deskCapacity, capacity, contents, empty⟩ :=
    turnOf_eq carries level carried twins supplies
  have worked := worked_round first supplies
  have consuming := consuming_round first supplies
  rw [same]
  refine ⟨rfl, rfl, contents, fun mode answer => ?_⟩
  rw [answer] at worked ⊢
  refine ⟨?_, fun goes => ?_, fun consumes => (empty (consuming.symm.trans consumes)).2, ?_, ?_⟩
  · rw [BlobLoop.after, shows, shows]
    rfl
  · have stage := (worked.kept_of_going goes).1.trans twins.stage
    have exchange := worked.exchange.trans twins.exchange
    refine ⟨⟨_, rfl, (twins_dress stage exchange _ _).redesk _ _⟩, deskCapacity, capacity,
      fun consumes => ?_, fun produces => level.producing (consuming.symm.trans produces)⟩
    have before := consuming.symm.trans consumes
    obtain ⟨one, two⟩ := empty before
    exact ⟨(level.consuming before).1, one.trans two.symm⟩
  · rcases worked.leaves with ⟨_, supported, _, _, _⟩ | ⟨final, _, _⟩
    · exact supported
    · rintro rfl
      cases final
  · rcases worked.leaves with ⟨_, _, more, _, _⟩ | ⟨final, _, _⟩
    · exact more
    · rintro rfl
      cases final

variable {first : SharedKey} {turn : Turn (Supplies κ) SharedKey} {reply : Turn (Supplies κ) σ}

omit [KeyStore κ] [Handler (Supplies κ) σ] in
theorem SameRound.sends_iff (same : SameRound inject first loop turn reply)
    (level : Level inject first loop) :
    (loop.call = .produce ∧ (!reply.blob.isEmpty) = true) ↔
      (!first.consuming && !turn.blob.isEmpty) = true := by
  cases consuming : first.consuming with
  | true =>
      rw [(level.consuming consuming).1]
      simp
  | false =>
      have length : turn.blob.length = reply.blob.length := by
        rw [← Blob.length_contents, ← Blob.length_contents, same.contents consuming]
      rw [level.producing consuming, Blob.isEmpty, Blob.isEmpty, length]
      simp

omit [KeyStore κ] in
theorem SameRound.progress_of_fault (same : SameRound inject first loop turn reply)
    (beside : Beside moment other) {fault : Fault} (broken : turn.answer = .error fault)
    (stepped : moment.step alarms =
      landing alarms inject { moment with surroundings := turn.surroundings }
        (moment.scene.play (first.closeRound turn)))
    (called : other.negotiation.advance other.surroundings =
      ⟨other.negotiation.registry, reply.surroundings, closeTurn loop reply⟩) :
    GoOnTo alarms (Together inject) moment other := by
  rw [closeRound, broken] at stepped
  rw [closeTurn, same.answer, broken] at called
  refine ⟨0, 0, _, _, .step stepped .here, .step (Moment.moves called rfl) .here, Or.inr ?_⟩
  exact ⟨beside.settings, beside.clock, beside.registry, .over _, same.surroundings.symm, beside.scene⟩

theorem SameRound.progress_of_mode (carries : Handler.Carries (Supplies κ) inject)
    (same : SameRound inject first loop turn reply) (level : Level inject first loop)
    (beside : Beside moment other) (chain : loop.chain = [moment.negotiation.protocol])
    {mode : Mode} (answered : turn.answer = .ok mode)
    (stepped : moment.step alarms =
      landing alarms inject { moment with surroundings := turn.surroundings }
        (moment.scene.play (first.closeRound turn)))
    (called : other.negotiation.advance other.surroundings =
      ⟨other.negotiation.registry, reply.surroundings, closeTurn loop reply⟩) :
    EndAlike alarms moment other ∨ GoOnTo alarms (Together inject) moment other := by
  let obeying (scene : Scene) : Moment (Supplies κ) σ :=
    ⟨{ other.negotiation with phase := .obeying (loop.after reply) mode }, reply.surroundings,
      scene⟩
  have obeyed {scene later : Scene} (alike : Scene.Alike scene later) (leased : scene.leased = true)
      (landed : moment.step alarms =
        landing alarms inject ⟨moment.negotiation, turn.surroundings, scene⟩
          (scene.play (SharedKey.obey { turn.handler with desk := turn.blob } mode)))
      (moves : other.step alarms = .inl (obeying later)) :
      EndAlike alarms moment other ∨ GoOnTo alarms (Together inject) moment other := by
    have next : Beside ⟨moment.negotiation, turn.surroundings, scene⟩ (obeying later) :=
      ⟨beside.settings, beside.clock, beside.registry, same.surroundings.symm, alike, leased⟩
    rcases obey_progress carries landed next rfl (same.turned mode answered) chain with ends | goes
    · exact Or.inl (ends.after_step moves)
    · exact Or.inr (goes.after_step moves)
  have sends := same.sends_iff level
  rw [closeRound, answered] at stepped
  rw [closeTurn, same.answer, answered] at called
  dsimp only at stepped called
  by_cases sending : (!first.consuming && !turn.blob.isEmpty) = true
  · rw [if_pos sending, Scene.play_bind] at stepped
    rw [if_pos (sends.mpr sending)] at called
    have producing : first.consuming = false := by
      simp only [Bool.and_eq_true, Bool.not_eq_true'] at sending
      exact sending.1
    have played := beside.scene.play (Frame.send turn.blob.contents)
    have leased : (moment.scene.play (Frame.send turn.blob.contents)).2.leased = true :=
      beside.leased
    have performed : other.step alarms = _ := Moment.step_talk_bind called
    rw [← same.contents producing] at performed
    generalize moment.scene.play (Frame.send turn.blob.contents) = one at played leased stepped
    generalize other.scene.play (Frame.send turn.blob.contents) = two at played performed
    obtain ⟨sent, scene⟩ := one
    obtain ⟨_, later⟩ := two
    obtain ⟨rfl, (alike : Scene.Alike scene later)⟩ := played
    rcases sent with _ | fault | _
    · refine Or.inl ⟨_, _, .stop stepped, .stop performed, ?_⟩
      simp only [seen_finish, alike.now, alike.channel, alike.pauses]
    · refine Or.inr ⟨0, 0, _, _, .step stepped .here, .step performed .here, Or.inr ?_⟩
      exact ⟨beside.settings, beside.clock, beside.registry, .over _, same.surroundings.symm, alike⟩
    · exact obeyed alike leased stepped performed
  · rw [if_neg sending] at stepped
    rw [if_neg (fun both => sending (sends.mp both))] at called
    exact obeyed beside.scene beside.leased stepped (Moment.moves called rfl)

/-- A round of the takeover ends like two phases of the blob loop, or both go on. -/
theorem Trading.progress (carries : Handler.Carries (Supplies κ) inject)
    (shows : ∀ handler, face (inject handler) = face handler)
    (trading : Trading inject first loop moment other) :
    EndAlike alarms moment other ∨ GoOnTo alarms (Together inject) moment other := by
  have same := trading.level.round carries shows moment.surroundings
  have stepped := step_takingOver alarms carries trading.phase rfl
  rw [if_neg (by decide), carryOn_eq] at stepped
  have called : other.negotiation.advance other.surroundings =
      ⟨other.negotiation.registry, (turnOf loop moment.surroundings).surroundings,
        closeTurn loop (turnOf loop moment.surroundings)⟩ := by
    rw [trading.beside.surroundings]
    exact advance_calling _ trading.calling
  rcases answered : (first.round moment.surroundings).answer with fault | mode
  · exact Or.inr (same.progress_of_fault trading.beside answered stepped called)
  · exact same.progress_of_mode carries trading.level trading.beside trading.chain answered stepped
      called

omit [KeyStore κ] in
theorem GoOnTo.together (goes : GoOnTo alarms Abreast moment other) :
    GoOnTo alarms (Together inject) moment other := by
  obtain ⟨count, more, next, after, one, two, abreast⟩ := goes
  exact ⟨count, more, next, after, one, two, Or.inr abreast⟩

/-- A takeover and a blob loop stay together until they end alike. -/
theorem progresses_together (alarms : Alarms) (carries : Handler.Carries (Supplies κ) inject)
    (shows : ∀ handler, face (inject handler) = face handler) :
    Progresses alarms (Together inject : Moment (Supplies κ) σ → Moment (Supplies κ) σ → Prop) := by
  rintro moment other (⟨first, loop, trading⟩ | abreast)
  · exact trading.progress carries shows
  · rcases progresses_abreast moment other abreast with ends | goes
    · exact Or.inl ends
    · exact Or.inr goes.together

end Parley.Negotiation
