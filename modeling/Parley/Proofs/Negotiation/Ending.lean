import Parley.Proofs.Negotiation.Subsiding
import Parley.Proofs.Negotiation.Waiting

/-!
Negotiations through blobs end by themselves. On a channel that gives finitely many bytes and always
answers, a negotiation whose keys are locked only so often is over after so many phases and pauses,
unless an alarm rings before.
-/

namespace Parley

/-! ## Channels that always answer -/

namespace Script

def Live (script : Script) : Prop := .silence ∉ script.reads

variable {script : Script}

theorem Live.take {reads : List ReadItem} (live : .silence ∉ reads) (limit : Nat) :
    ∃ answer, (Script.take limit reads).1 = some answer ∧
      .silence ∉ (Script.take limit reads).2 := by
  induction reads with
  | nil => exact ⟨_, rfl, live⟩
  | cons item rest ih =>
      have liveRest : .silence ∉ rest := fun hangs => live (.tail _ hangs)
      cases item with
      | data bytes =>
          cases bytes with
          | nil => exact ih liveRest
          | cons byte bytes =>
              refine ⟨_, rfl, ?_⟩
              simp only [Script.take]
              split
              · exact liveRest
              · rintro (_ | ⟨_, hangs⟩)
                exact liveRest hangs
      | error kind => exact ⟨_, rfl, liveRest⟩
      | ended => exact ⟨_, rfl, live⟩
      | silence => exact absurd (.head _) live

theorem Live.play {α : Type} (live : script.Live) (dialogue : Dialogue α) :
    ∃ value later, script.play dialogue = (some value, later) ∧ later.Live ∧
      (supply later.reads).length ≤ (supply script.reads).length := by
  induction dialogue generalizing script with
  | done value => exact ⟨value, script, rfl, live, Nat.le_refl _⟩
  | write bytes next ih =>
      have kept := script.reads_write bytes
      have still : (script.write bytes).2.Live := by
        rw [Live, kept]
        exact live
      obtain ⟨value, later, played, live, fewer⟩ := ih (script.write bytes).1 still
      rw [kept] at fewer
      exact ⟨value, later, played, live, fewer⟩
  | read limit next ih =>
      obtain ⟨answer, taken, still⟩ := Live.take live limit
      have lost := congrArg List.length (supply_take limit script.reads)
      rw [List.length_append] at lost
      have goesOn : Live { script with reads := (Script.take limit script.reads).2 } := still
      obtain ⟨value, later, played, live, fewer⟩ := ih answer goesOn
      refine ⟨value, later, ?_, live, ?_⟩
      · simp only [Script.play, Script.read, taken]
        exact played
      · dsimp only at fewer
        omega

end Script

/-! ## Settings -/

namespace Settings

/-- The settings that a caller can come by. -/
inductive Configured : Settings → Prop
  | default : Configured default
  | resolved (environment : Environment) (overrides : Overrides) :
      Configured (resolve environment overrides)
  | found (environment : Environment) : Configured (fromEnvironment environment)
  | withTimeout {settings : Settings} (configured : Configured settings) (milliseconds : Nat) :
      Configured (settings.withTimeout milliseconds)
  | withBlobCapacity {settings : Settings} (configured : Configured settings) (capacity : Nat) :
      Configured (settings.withBlobCapacity capacity)
  | withMaxDelegations {settings : Settings} (configured : Configured settings) (limit : Nat) :
      Configured (settings.withMaxDelegations limit)
  | withRetries {settings : Settings} (configured : Configured settings) (limit delay : Nat) :
      Configured (settings.withRetries limit delay)

theorem Configured.smallest_le {settings : Settings} (configured : settings.Configured) :
    smallestBlob ≤ settings.blobCapacity := by
  induction configured with
  | default => decide
  | resolved environment overrides => exact Nat.le_max_left _ _
  | found environment => exact Nat.le_max_left _ _
  | withTimeout _ _ ih => exact ih
  | withBlobCapacity _ _ _ => exact Nat.le_max_left _ _
  | withMaxDelegations _ _ ih => exact ih
  | withRetries _ _ _ ih => exact ih

end Settings

namespace Negotiation

/-! ## Actions on live channels -/

section

variable {σ : Type} {clock : Clock} {scene later : Scene} {action : Action (Phase σ)}
  {phase : Phase σ} {time : Nat}

/-- What an action comes to if no alarm rings by a time. With earlier alarms it comes to no other. -/
structure Unhurried (clock : Clock) (time : Nat) (scene : Scene) (action : Action (Phase σ))
    (phase : Phase σ) (later : Scene) : Prop where
  performs (alarms : Alarms) (late : time < alarms.first) :
    perform clock alarms scene action = .inl (phase, later)
  only (alarms : Alarms) {other : Phase σ × Scene}
    (performed : perform clock alarms scene action = .inl other) : other = (phase, later)
  live : later.shared.channel.Live

theorem unhurried_of_forall (live : later.shared.channel.Live)
    (performs : ∀ alarms, perform clock alarms scene action = .inl (phase, later)) :
    Unhurried clock time scene action phase later :=
  ⟨fun alarms _ => performs alarms,
    fun alarms _ performed => Sum.inl.inj (performed.symm.trans (performs alarms)), live⟩

theorem unhurried_talk {dialogue : Dialogue (Phase σ)} (phase : Phase σ) (channel : Script)
    (played : scene.shared.channel.play dialogue = (some phase, channel)) (live : channel.Live) :
    Unhurried clock time scene (.talk dialogue) phase
      { scene with shared := { scene.shared with channel } } := by
  refine unhurried_of_forall live fun alarms => ?_
  rw [perform, Scene.play, played]

theorem unhurried_pause (live : scene.shared.channel.Live) (seconds : Nat) (phase : Phase σ) :
    Unhurried clock (max scene.now (clock.wake scene.now (1000 * seconds))) scene
      (.pause seconds phase) phase
      { scene with
        now := max scene.now (clock.wake scene.now (1000 * seconds))
        pauses := scene.pauses ++ [seconds] } := by
  generalize wakes : clock.wake scene.now (1000 * seconds) = wake
  refine ⟨fun alarms late => ?_, fun alarms other performed => ?_, live⟩
  · have slept : max scene.now (min wake alarms.first) = max scene.now wake := by omega
    have quiet : alarms.rung (max scene.now wake) = none := by
      refine Option.not_isSome_iff_eq_none.mp fun rings => ?_
      have rung := (alarms.isSome_rung_iff _).mp rings
      omega
    rw [perform, wakes, Alarms.sleep]
    dsimp only
    rw [slept, quiet]
  · rw [perform, wakes, Alarms.sleep] at performed
    dsimp only at performed
    split at performed
    · cases performed
    · rename_i quiet
      have early : ¬ alarms.first ≤ max scene.now (min wake alarms.first) := fun rung => by
        have rings := (alarms.isSome_rung_iff _).mpr rung
        rw [quiet] at rings
        cases rings
      have slept : max scene.now (min wake alarms.first) = max scene.now wake := by omega
      rw [slept] at performed
      exact (Sum.inl.inj performed).symm

theorem exists_unhurried (live : scene.shared.channel.Live)
    (goesOn : ∀ result, action ≠ .stop result) :
    ∃ time phase later, Unhurried clock time scene action phase later ∧
      (Script.supply later.shared.channel.reads).length ≤
        (Script.supply scene.shared.channel.reads).length := by
  have untouched (later : Scene) {phase : Phase σ}
      (kept : later.shared.channel = scene.shared.channel)
      (performs : ∀ alarms, perform clock alarms scene action = .inl (phase, later)) :
      ∃ time phase later, Unhurried clock time scene action phase later ∧
        (Script.supply later.shared.channel.reads).length ≤
          (Script.supply scene.shared.channel.reads).length := by
    refine ⟨0, phase, later, unhurried_of_forall ?_ performs, ?_⟩
    · rw [kept]
      exact live
    · exact Nat.le_of_eq (by rw [kept])
  cases action with
  | talk dialogue =>
      obtain ⟨phase, channel, played, still, fewer⟩ := live.play dialogue
      exact ⟨0, phase, _, unhurried_talk phase channel played still, fewer⟩
  | pause seconds phase => exact ⟨_, phase, _, unhurried_pause live seconds phase, Nat.le_refl _⟩
  | lease next =>
      refine untouched scene.lease.2 ?_ fun _ => rfl
      rw [Scene.lease, Shared.lease]
      split <;> rename_i leased <;> split at leased <;> cases leased <;> rfl
  | release phase =>
      refine untouched scene.release ?_ fun _ => rfl
      rw [Scene.release]
      split <;> rfl
  | stop result => exact absurd rfl (goesOn result)

theorem Unhurried.later_than {late : Nat} (performs : Unhurried clock time scene action phase later)
    (less : time ≤ late) : Unhurried clock late scene action phase later :=
  ⟨fun alarms after => performs.performs alarms (Nat.lt_of_le_of_lt less after), performs.only,
    performs.live⟩

theorem Unhurried.leads (performs : Unhurried clock time scene action phase later) :
    action.Leads phase :=
  leads_of_perform (performs.performs ⟨none, time + 1, 0⟩ (Nat.lt_succ_self time))

theorem unhurried_reading (loop : BlobLoop σ) (live : scene.shared.channel.Live) :
    ∃ phase later, Unhurried clock 0 scene (obey loop .needData) phase later ∧
      ((∃ fault, phase = .over (.error fault)) ∨
        ∃ frame, phase = .calling { loop with blob := loop.blob.load frame, call := .consume } ∧
          frame.length ≤ loop.blob.capacity ∧
          frame.length + (Script.supply later.shared.channel.reads).length <
            (Script.supply scene.shared.channel.reads).length) := by
  have received := Frame.received_play loop.blob.capacity scene.shared.channel
  obtain ⟨answer, channel, played, still, _⟩ :=
    live.play (Frame.receive loop.blob.capacity)
  rw [played] at received
  cases answer with
  | error fault =>
      refine ⟨_, _, unhurried_talk (.over (.error fault)) channel ?_ still,
        Or.inl ⟨fault, rfl⟩⟩
      rw [Script.play_bind, played]
      rfl
  | ok frame =>
      obtain ⟨fits, header, four, _, lost⟩ := received
      refine ⟨_, _, unhurried_talk
        (.calling { loop with blob := loop.blob.load frame, call := .consume }) channel ?_ still,
        Or.inr ⟨frame, rfl, fits, ?_⟩⟩
      · rw [Script.play_bind, played]
        rfl
      · have total := congrArg List.length lost
        rw [List.length_append, List.length_append, four, Frame.headerLength] at total
        dsimp only at total ⊢
        omega

end

/-! ## Ends without alarms -/

section

variable {ω σ : Type} [HasFace σ] [Handler ω σ] {moment : Moment ω σ} {ended : Ended ω σ}
  {time bound : Nat}

/--
A negotiation is over within so many phases if no alarm rings by a time. Whatever the alarms, it
does nothing else up to there.
-/
inductive Concludes (time : Nat) : Nat → Moment ω σ → Ended ω σ → Prop
  | over {bound : Nat} {moment : Moment ω σ} {result : Except Fault Outcome}
      (ended : moment.negotiation.phase = .over result) :
      Concludes time (bound + 1) moment
        (finish result moment.negotiation.registry moment.surroundings moment.scene)
  | step {bound : Nat} {moment : Moment ω σ} {phase : Phase σ} {later : Scene} {ended : Ended ω σ}
      (performs : Unhurried moment.negotiation.clock time moment.scene
        (moment.negotiation.advance moment.surroundings).action phase later)
      (concludes : Concludes time bound
        ⟨moment.negotiation.proceed (moment.negotiation.advance moment.surroundings).registry phase,
          (moment.negotiation.advance moment.surroundings).surroundings, later⟩ ended) :
      Concludes time (bound + 1) moment ended

theorem Concludes.later_than {late : Nat} (concludes : Concludes time bound moment ended)
    (less : time ≤ late) : Concludes late bound moment ended := by
  induction concludes with
  | «over» ended => exact .over ended
  | step performs _ ih => exact .step (performs.later_than less) ih

theorem step_over {result : Except Fault Outcome} (alarms : Alarms)
    (ended : moment.negotiation.phase = .over result) :
    moment.step alarms =
      .inr (finish result moment.negotiation.registry moment.surroundings moment.scene) := by
  have advanced : moment.negotiation.advance moment.surroundings =
      ⟨moment.negotiation.registry, moment.surroundings, .stop result⟩ := by
    rw [advance, ended]
  exact Moment.stops advanced rfl

theorem Concludes.end? (concludes : Concludes time bound moment ended) {alarms : Alarms}
    (late : time < alarms.first) : moment.end? alarms bound = some ended := by
  induction concludes with
  | «over» ended => exact Moment.end?_of_stops (step_over alarms ended) _
  | step performs _ ih =>
      rw [Moment.end?_of_moves (Moment.moves rfl (performs.performs alarms late))]
      exact ih

theorem Concludes.exists_end? (concludes : Concludes time bound moment ended) (alarms : Alarms) :
    ∃ last, moment.end? alarms bound = some last := by
  induction concludes with
  | «over» ended => exact ⟨_, Moment.end?_of_stops (step_over alarms ended) _⟩
  | @step bound moment _ _ _ performs _ ih =>
      rcases performed : perform moment.negotiation.clock alarms moment.scene
        (moment.negotiation.advance moment.surroundings).action with next | result
      · obtain rfl := performs.only alarms performed
        rw [Moment.end?_of_moves (Moment.moves rfl performed)]
        exact ih
      · exact ⟨_, Moment.end?_of_stops (Moment.stops rfl performed) bound⟩

theorem Concludes.course {negotiation : Negotiation σ} {surroundings : ω}
    (concludes : Concludes time bound moment ended)
    (course : Course negotiation surroundings moment.negotiation moment.surroundings) :
    ∃ now later, Course negotiation surroundings now later ∧ now.phase = .over ended.result := by
  induction concludes with
  | «over» ended => exact ⟨_, _, course, ended⟩
  | step performs _ ih => exact ih (course.step performs.leads)

end

variable {κ : Type} [KeyStore κ] {negotiation now : Negotiation BuiltIn} {supplies : Supplies κ}
  {spare count : Nat}

theorem Subsides.concludes (subsides : Subsides spare count now supplies) {scene : Scene}
    (live : scene.shared.channel.Live)
    (enough : (Script.supply scene.shared.channel.reads).length ≤ spare) :
    ∃ time bound ended, Concludes time bound ⟨now, supplies, scene⟩ ended := by
  induction subsides generalizing scene with
  | «over» ended => exact ⟨0, 1, _, .over ended⟩
  | @reading spare _ now supplies loop asks steps _ ih =>
      have advanced := advance_obeying supplies asks
      obtain ⟨phase, later, performs, faultOrFrame⟩ := unhurried_reading loop live
      have step {time bound : Nat} {ended : Ended (Supplies κ) BuiltIn}
          (concludes : Concludes time bound ⟨now.proceed now.registry phase, supplies, later⟩
            ended) : Concludes time (bound + 1) ⟨now, supplies, scene⟩ ended := by
        have performed : Unhurried now.clock time scene (now.advance supplies).action phase later := by
          rw [advanced]
          exact performs.later_than (Nat.zero_le time)
        refine .step performed ?_
        dsimp only
        rw [advanced]
        exact concludes
      rcases faultOrFrame with ⟨fault, rfl⟩ | ⟨frame, rfl, short, fewer⟩
      · exact ⟨0, 2, _, step (.over rfl)⟩
      · obtain ⟨time, bound, ended, concludes⟩ :=
          ih frame _ (Nat.lt_of_lt_of_le fewer enough) short performs.leads performs.live
            (Nat.le_refl _)
        exact ⟨time, bound + 1, ended, step concludes⟩
  | @step spare count now supplies busy _ ih =>
      by_cases stops : ∃ result, (now.advance supplies).action = .stop result
      · obtain ⟨result, stops⟩ := stops
        exact ⟨0, 1, _, .over (phase_of_stop stops)⟩
      · obtain ⟨time, phase, later, performs, fewer⟩ :=
          exists_unhurried live fun result same => stops ⟨result, same⟩
        obtain ⟨after, bound, ended, concludes⟩ :=
          ih phase performs.leads performs.live (Nat.le_trans fewer enough)
        exact ⟨max time after, bound + 1, ended,
          .step (performs.later_than (Nat.le_max_left time after))
            (concludes.later_than (Nat.le_max_right time after))⟩

theorem Course.orderly {later : Supplies κ} (course : Course negotiation supplies now later)
    (orderly : Orderly negotiation supplies) : Orderly now later := by
  induction course with
  | begin => exact orderly
  | step _ leads ih => exact ih.proceed leads

/--
The blob loop ends on every finite input. Let a negotiation through blobs have built-in handlers
and settings that a caller can come by, let each user be locked only so often, and let no read of
the channel wait for ever. Then blobs hold sixteen bytes at least, and there is a time such that the
negotiation comes to an outcome or a fault of its own whenever no alarm rings by then; within the
same number of phases it ends whatever the alarms are. Wherever it may be, whatever the channel has
answered, it needs a frame or is over after finitely many steps.
-/
theorem ends_by_itself {scene : Scene} (furnished : negotiation.registry.Furnished)
    (opening : negotiation.phase = .opening) (route : negotiation.route = .blobs)
    (configured : negotiation.settings.Configured) (relents : KeyStore.Relents supplies.keys)
    (live : scene.shared.channel.Live) :
    16 ≤ negotiation.settings.blobCapacity ∧
    (∃ time bound ended,
      (∃ now later, Course negotiation supplies now later ∧ now.phase = .over ended.result) ∧
      (∀ alarms : Alarms, time < alarms.first →
        runPhases alarms bound negotiation supplies scene = some ended) ∧
      ∀ cancelAt, ∃ last, negotiation.run bound cancelAt supplies scene = some last ∧
        (time < (Alarms.starting cancelAt negotiation.settings scene.now).first →
          last = ended)) ∧
    ∀ now later, Course negotiation supplies now later → ∃ count, Rests count now later := by
  have room := configured.smallest_le
  have orderly : Orderly negotiation supplies := by
    refine ⟨furnished, ?_, route, Nat.lt_of_lt_of_le (by decide) room, ?_, relents⟩
    · rw [opening]
      exact .opening
    · rw [opening]
      trivial
  refine ⟨room, ?_, fun now later course => ?_⟩
  · obtain ⟨count, subsides⟩ :=
      orderly.subsides (Script.supply scene.shared.channel.reads).length
    obtain ⟨time, bound, ended, concludes⟩ := subsides.concludes live (Nat.le_refl _)
    have concludes := concludes.later_than (Nat.le_max_left time scene.now)
    refine ⟨max time scene.now, bound, ended, concludes.course .begin,
      fun alarms late => concludes.end? late, fun cancelAt => ?_⟩
    by_cases late : max time scene.now <
        (Alarms.starting cancelAt negotiation.settings scene.now).first
    · have early := Nat.lt_of_le_of_lt (Nat.le_max_right time scene.now) late
      refine ⟨ended, ?_, fun _ => rfl⟩
      rw [run_of_early early]
      exact concludes.end? late
    · rw [run]
      split
      · exact ⟨_, rfl, fun early => absurd early late⟩
      · obtain ⟨last, ends⟩ := concludes.exists_end?
          (Alarms.starting cancelAt negotiation.settings scene.now)
        exact ⟨last, ends, fun early => absurd early late⟩
  · obtain ⟨count, subsides⟩ := (course.orderly orderly).subsides 0
    exact ⟨count, subsides.rests⟩

def blobHost : Negotiation BuiltIn := { host with route := .blobs }

def lockedSupplies : Supplies MemoryKeys := ⟨.counting, lockedKeys⟩

def departed : Scene :=
  let hello :=
    (Message.hello "p9sk1" "alice" (List.replicate nonceLength 7)).encode.toOption.getD []
  { shared := { channel := { reads := [.data (Frame.encode hello), .ended] } } }

/-- The server waits for the key twice, sends its challenge, and finds the channel closed. -/
theorem ends_by_itself_departed :
    ∃ time bound ended,
      (∀ alarms : Alarms, time < alarms.first →
        runPhases alarms bound blobHost lockedSupplies departed = some ended) ∧
      ∃ last, blobHost.run bound none lockedSupplies departed = some last ∧
        last.result = .error .channelClosed ∧ last.scene.pauses = [2, 2] := by
  have counted : lockedKeys.Counted := by
    intro user lock found
    have one : lockedKeys.locks.get? user =
        if user = "alice" then some ⟨2, some 2⟩ else none := by
      rw [lockedKeys, MemoryKeys.lock, Dictionary.get?_insert]
      split <;> rfl
    rw [one] at found
    split at found
    · cases found
      rfl
    · cases found
  have live : departed.shared.channel.Live := by
    rw [Script.Live]
    decide
  have furnished : blobHost.registry.Furnished := Registry.furnished_standard
  have relents : KeyStore.Relents lockedSupplies.keys := counted.relents
  obtain ⟨_, ⟨time, bound, ended, _, late, runs⟩, _⟩ :=
    ends_by_itself furnished rfl rfl .default relents live
  obtain ⟨last, ran, _⟩ := runs none
  have shown : (blobHost.run 30 none lockedSupplies departed).map
      (fun last => (last.result, last.scene.pauses)) = some (.error .channelClosed, [2, 2]) := by
    decide +kernel
  obtain ⟨other, again, same⟩ := Option.map_eq_some_iff.mp shown
  have early : departed.now < (Alarms.starting none blobHost.settings departed.now).first := by
    decide
  rw [run_of_early early] at ran again
  obtain rfl := (ends_of_end? ran).unique (ends_of_end? again)
  refine ⟨time, bound, ended, late, last, ?_, congrArg Prod.fst same, congrArg Prod.snd same⟩
  rw [run_of_early early]
  exact ran

end Negotiation

end Parley
