import Parley.Proofs.Negotiation.Writes
import Parley.Rehearsed

/-!
Negotiations under different deadlines. A later deadline makes no difference until the earlier one
comes, and then the negotiation with the earlier one has written a part of what the other writes.
-/

namespace Parley

namespace Alarms

variable {alarms short long : Alarms} {now wake : Nat}

def Cancels (alarms : Alarms) : Prop :=
  ∃ time, alarms.cancelAt = some time ∧ time ≤ alarms.deadline

theorem first_of_cancels (cancels : alarms.Cancels) : alarms.cancelAt = some alarms.first := by
  obtain ⟨time, found, early⟩ := cancels
  rw [first, found]
  exact congrArg some (Nat.min_eq_left early).symm

theorem first_of_lasts (lasts : ¬ alarms.Cancels) : alarms.first = alarms.deadline := by
  rcases found : alarms.cancelAt with _ | time
  · rw [first, found]
  · rw [first, found]
    by_cases early : time ≤ alarms.deadline
    · exact absurd ⟨time, found, early⟩ lasts
    · exact Nat.min_eq_right (by omega)

theorem first_le_deadline (alarms : Alarms) : alarms.first ≤ alarms.deadline := by
  rw [first]
  split
  · exact Nat.le_refl _
  · exact Nat.min_le_right _ _

/-- The deadline has come by now, and the negotiation was not cancelled before. -/
def Expired (alarms : Alarms) (now : Nat) : Prop := alarms.deadline ≤ now ∧ ¬ alarms.Cancels

open Classical in
noncomputable def alarm (alarms : Alarms) : Fault :=
  if alarms.Cancels then .cancelled else alarms.timeoutFault

theorem rung_of_late (late : alarms.first ≤ now) (inTime : now ≤ alarms.deadline) :
    alarms.rung now = some alarms.alarm := by
  by_cases cancels : alarms.Cancels
  · rw [alarm, if_pos cancels, rung, first_of_cancels cancels]
    simp [late]
  · rw [first_of_lasts cancels] at late
    have lasts : alarms.cancelAt.any (· ≤ now) = false := by
      rcases found : alarms.cancelAt with _ | time
      · rfl
      · by_cases cancelled : time ≤ now
        · exact absurd ⟨time, found, Nat.le_trans cancelled inTime⟩ cancels
        · simpa using cancelled
    rw [alarm, if_neg cancels, rung, lasts]
    simp [late]

theorem rung_first (alarms : Alarms) : alarms.rung alarms.first = some alarms.alarm :=
  rung_of_late (Nat.le_refl _) alarms.first_le_deadline

theorem ring_of_early (early : now < alarms.first) :
    alarms.ring now = (alarms.first, alarms.alarm) := by
  rw [ring, Nat.max_eq_right (Nat.le_of_lt early), rung_first]
  rfl

theorem sleep_soundly (early : now < alarms.first) (wakes : wake < alarms.first) :
    alarms.sleep now wake = (max now wake, none) := by
  have woken : max now (min wake alarms.first) = max now wake := by
    rw [Nat.min_eq_left (Nat.le_of_lt wakes)]
  rw [sleep, woken, rung_of_early (Nat.max_lt.mpr ⟨early, wakes⟩)]

theorem sleep_woken (early : now < alarms.first) (late : alarms.first ≤ wake) :
    alarms.sleep now wake = (alarms.first, some alarms.alarm) := by
  have woken : max now (min wake alarms.first) = alarms.first := by
    rw [Nat.min_eq_right late, Nat.max_eq_right (Nat.le_of_lt early)]
  rw [sleep, woken, rung_first]

/-- Alarms that differ in nothing but the deadline, which is no earlier with the second. -/
structure Outlasts (long short : Alarms) : Prop where
  cancelAt : long.cancelAt = short.cancelAt
  deadline : short.deadline ≤ long.deadline

theorem Outlasts.first_le (outlasts : long.Outlasts short) : short.first ≤ long.first := by
  have later := outlasts.deadline
  rw [first, first, outlasts.cancelAt]
  cases short.cancelAt with
  | none => exact later
  | some cancelAt =>
      dsimp only
      omega

theorem Outlasts.cancels (outlasts : long.Outlasts short) (cancels : short.Cancels) :
    long.first = short.first ∧ long.alarm = short.alarm := by
  obtain ⟨time, found, early⟩ := cancels
  have later : long.Cancels :=
    ⟨time, outlasts.cancelAt.trans found, Nat.le_trans early outlasts.deadline⟩
  have same := (first_of_cancels later).symm.trans
    (outlasts.cancelAt.trans (first_of_cancels ⟨time, found, early⟩))
  refine ⟨Option.some.inj same, ?_⟩
  rw [alarm, alarm, if_pos later, if_pos ⟨time, found, early⟩]

theorem Outlasts.sleep (outlasts : long.Outlasts short) (early : now < short.first) (wake : Nat) :
    (long.sleep now wake = (max now wake, none) ∧ short.sleep now wake = (max now wake, none) ∧
      max now wake < short.first) ∨
    (short.sleep now wake = (short.first, some short.alarm) ∧
      (short.Cancels → long.sleep now wake = (short.first, some short.alarm))) := by
  have still : now < long.first := Nat.lt_of_lt_of_le early outlasts.first_le
  by_cases wakes : wake < short.first
  · have later : wake < long.first := Nat.lt_of_lt_of_le wakes outlasts.first_le
    exact Or.inl ⟨sleep_soundly still later, sleep_soundly early wakes,
      Nat.max_lt.mpr ⟨early, wakes⟩⟩
  · have late : short.first ≤ wake := Nat.le_of_not_lt wakes
    refine Or.inr ⟨sleep_woken early late, fun cancels => ?_⟩
    obtain ⟨first, alarm⟩ := outlasts.cancels cancels
    rw [← first] at late ⊢
    rw [sleep_woken still late, alarm]

theorem Outlasts.ring (outlasts : long.Outlasts short) (early : now < short.first) :
    short.ring now = (short.first, short.alarm) ∧
      (short.Cancels → long.ring now = (short.first, short.alarm)) := by
  refine ⟨ring_of_early early, fun cancels => ?_⟩
  obtain ⟨first, alarm⟩ := outlasts.cancels cancels
  rw [ring_of_early (Nat.lt_of_lt_of_le early outlasts.first_le), first, alarm]

end Alarms

namespace Negotiation

variable {ω σ : Type} {short long : Alarms} {scene : Scene} {cancelAt : Option Nat}
  {now early late timeout : Nat}

def withTimeout (negotiation : Negotiation σ) (timeout : Nat) : Negotiation σ :=
  { negotiation with settings := negotiation.settings.withTimeout timeout }

def alarmsFor (cancelAt : Option Nat) (now timeout : Nat) : Alarms :=
  { cancelAt, deadline := now + timeout, timeout }

theorem outlasts_alarmsFor (cancelAt : Option Nat) (now : Nat) (earlier : early ≤ late) :
    (alarmsFor cancelAt now late).Outlasts (alarmsFor cancelAt now early) := by
  refine ⟨rfl, ?_⟩
  simp only [alarmsFor]
  omega

theorem rung_withTimeout (negotiation : Negotiation σ)
    (late : (alarmsFor cancelAt now timeout).first ≤ now) :
    (Alarms.starting cancelAt (negotiation.withTimeout timeout).settings now).rung now =
      some (alarmsFor cancelAt now timeout).alarm :=
  Alarms.rung_of_late late (Nat.le_add_right now _)

/--
One action under two deadlines. Unless an alarm rings during it, it comes to the same; and if the
earlier alarms ring, what was written by then is what the action writes under the later ones.
-/
theorem perform_outlasts (clock : Clock) (outlasts : long.Outlasts short)
    (early : scene.now < short.first) (action : Action (Phase σ)) :
    (perform clock long scene action = perform clock short scene action ∧
      (sceneAfter (perform clock short scene action)).now < short.first) ∨
    ∃ last, perform clock short scene action = .inr (.error short.alarm, last) ∧
      last.now = short.first ∧
      (sceneAfter (perform clock long scene action)).written = last.written ∧
      (short.Cancels → perform clock long scene action = .inr (.error short.alarm, last)) := by
  cases action with
  | stop result => exact Or.inl ⟨rfl, early⟩
  | lease next => exact Or.inl ⟨rfl, lt_of_eq_of_lt scene.now_lease early⟩
  | release phase => exact Or.inl ⟨rfl, lt_of_eq_of_lt scene.now_release early⟩
  | pause seconds phase =>
      have written : (sceneAfter (perform clock long scene (.pause seconds phase))).written =
          scene.written := by
        simp only [perform]
        split <;> rfl
      simp only [perform] at written ⊢
      rcases outlasts.sleep early (clock.wake scene.now (1000 * seconds)) with
        ⟨sleeps, same, soon⟩ | ⟨rings, cancelled⟩
      · rw [sleeps, same]
        exact Or.inl ⟨rfl, soon⟩
      · rw [rings]
        refine Or.inr ⟨_, rfl, rfl, written, fun cancels => ?_⟩
        rw [cancelled cancels]
  | talk dialogue =>
      have now : (scene.play dialogue).2.now = scene.now := rfl
      simp only [perform]
      rcases played : scene.play dialogue with ⟨_ | phase, later⟩
      · rw [played] at now
        obtain ⟨rings, cancelled⟩ := outlasts.ring (lt_of_eq_of_lt now early)
        dsimp only
        rw [rings]
        refine Or.inr ⟨_, rfl, rfl, rfl, fun cancels => ?_⟩
        rw [cancelled cancels]
      · rw [played] at now
        exact Or.inl ⟨rfl, lt_of_eq_of_lt now early⟩

variable [HasFace σ] [Handler ω σ] {moment : Moment ω σ} {ended : Ended ω σ} {bound more : Nat}

/--
A negotiation that ended under the earlier alarms. Unless one of them was why, it ends in the same
way under the later ones; otherwise it had written no more than it writes under those.
-/
theorem Moment.end?_outlasts (outlasts : long.Outlasts short)
    (early : moment.scene.now < short.first) (ends : moment.end? short bound = some ended)
    (enough : bound ≤ more) :
    (ended.scene.now < short.first ∧ moment.end? long more = some ended) ∨
    (ended.scene.now = short.first ∧ ended.result = .error short.alarm ∧
      ended.scene.written <+: moment.writtenWithin long more ∧
      (short.Cancels → moment.end? long more = some ended)) := by
  induction bound generalizing moment more with
  | zero => cases ends
  | succ bound ih =>
      obtain ⟨more, rfl⟩ := Nat.exists_eq_add_of_le' (Nat.le_trans (Nat.succ_pos bound) enough)
      rcases perform_outlasts moment.negotiation.clock outlasts early
        (moment.negotiation.advance moment.surroundings).action with
        ⟨same, soon⟩ | ⟨last, rings, now, written, cancelled⟩
      · have same : moment.step long = moment.step short := by rw [step, step, same]
        rcases stepped : moment.step short with next | last
        · rw [end?_of_moves stepped] at ends
          have soon : next.scene.now < short.first := by
            rw [scene_of_moves stepped]
            exact soon
          rw [end?_of_moves (same.trans stepped), writtenWithin, same, stepped]
          exact ih soon ends (Nat.le_of_succ_le_succ enough)
        · rw [end?_of_stops stepped] at ends
          cases ends
          left
          rw [scene_of_stops stepped, Scene.now_release]
          exact ⟨soon, end?_of_stops (same.trans stepped) more⟩
      · right
        have stopped := stops rfl rings
        rw [end?_of_stops stopped] at ends
        cases ends
        refine ⟨last.now_release.trans now, rfl, ?_, fun cancels => ?_⟩
        · have grown := written_within_next long more moment
          rw [sceneNext, written] at grown
          rw [finish, Scene.written_release]
          exact grown
        · exact end?_of_stops (stops rfl (cancelled cancels)) more

theorem advance_withTimeout (negotiation : Negotiation σ) (timeout : Nat) (surroundings : ω) :
    (negotiation.withTimeout timeout).advance surroundings =
      negotiation.advance surroundings := by
  rcases negotiation with ⟨protocol, start, route, settings, registry, clock, phase⟩
  cases phase with
  | opening => cases route <;> rfl
  | claiming next => rfl
  | calling loop => rfl
  | obeying loop mode => rfl
  | stopped handler chain mode => cases mode <;> rfl
  | takingOver handler fresh => rfl
  | tookOver handler mode => cases mode <;> rfl
  | tookOverFree handler mode => cases mode <;> rfl
  | «over» result => rfl

namespace Moment

variable {alarms : Alarms}

def withTimeout (moment : Moment ω σ) (timeout : Nat) : Moment ω σ :=
  { moment with negotiation := moment.negotiation.withTimeout timeout }

theorem step_withTimeout (moment : Moment ω σ) (timeout : Nat) :
    (moment.withTimeout timeout).step alarms =
      (moment.step alarms).map (fun next => next.withTimeout timeout) id := by
  have advanced := advance_withTimeout moment.negotiation timeout moment.surroundings
  have clock : (moment.negotiation.withTimeout timeout).clock = moment.negotiation.clock := rfl
  simp only [step, withTimeout, advanced, clock]
  rcases perform moment.negotiation.clock alarms moment.scene
    (moment.negotiation.advance moment.surroundings).action with ⟨phase, scene⟩ | ⟨result, scene⟩
  · rfl
  · rfl

theorem end?_withTimeout (moment : Moment ω σ) (timeout bound : Nat) :
    (moment.withTimeout timeout).end? alarms bound = moment.end? alarms bound := by
  induction bound generalizing moment with
  | zero => rfl
  | succ bound ih =>
      rw [end?_succ, end?_succ, step_withTimeout]
      rcases moment.step alarms with next | ended
      · exact ih next
      · rfl

theorem writtenWithin_withTimeout (moment : Moment ω σ) (timeout bound : Nat) :
    (moment.withTimeout timeout).writtenWithin alarms bound =
      moment.writtenWithin alarms bound := by
  induction bound generalizing moment with
  | zero => rfl
  | succ bound ih =>
      rw [writtenWithin, writtenWithin, step_withTimeout]
      rcases moment.step alarms with next | ended
      · exact ih next
      · rfl

end Moment

variable {negotiation : Negotiation σ} {surroundings : ω}

theorem run_withTimeout (negotiation : Negotiation σ) (surroundings : ω)
    (quiet : (alarmsFor cancelAt scene.now timeout).rung scene.now = none) (bound : Nat) :
    (negotiation.withTimeout timeout).run bound cancelAt surroundings scene =
        Moment.end? (alarmsFor cancelAt scene.now timeout) bound
          ⟨negotiation, surroundings, scene⟩ ∧
      (negotiation.withTimeout timeout).writtenWithin bound cancelAt surroundings scene =
        Moment.writtenWithin (alarmsFor cancelAt scene.now timeout) bound
          ⟨negotiation, surroundings, scene⟩ := by
  have quiet : (Alarms.starting cancelAt (negotiation.withTimeout timeout).settings
      scene.now).rung scene.now = none := quiet
  rw [run_of_quiet quiet, writtenWithin_of_quiet quiet]
  exact ⟨Moment.end?_withTimeout ⟨negotiation, surroundings, scene⟩ timeout bound,
    Moment.writtenWithin_withTimeout ⟨negotiation, surroundings, scene⟩ timeout bound⟩

theorem run_outlasts (earlier : early ≤ late)
    (ends : (negotiation.withTimeout early).run bound cancelAt surroundings scene = some ended)
    (enough : bound ≤ more) :
    let short := alarmsFor cancelAt scene.now early
    (ended.scene.now < short.first ∧
      (negotiation.withTimeout late).run more cancelAt surroundings scene = some ended) ∨
    (ended.scene.now = max scene.now short.first ∧ ended.result = .error short.alarm ∧
      ended.scene.written <+:
        (negotiation.withTimeout late).writtenWithin more cancelAt surroundings scene ∧
      (short.Cancels →
        (negotiation.withTimeout late).run more cancelAt surroundings scene = some ended)) := by
  intro short
  have outlasts : (alarmsFor cancelAt scene.now late).Outlasts short :=
    outlasts_alarmsFor cancelAt scene.now earlier
  by_cases soon : scene.now < short.first
  · have still := Nat.lt_of_lt_of_le soon outlasts.first_le
    rw [(run_withTimeout negotiation surroundings (Alarms.rung_of_early soon) bound).1] at ends
    obtain ⟨runs, writes⟩ :=
      run_withTimeout negotiation surroundings (Alarms.rung_of_early still) more
    rw [runs, writes, Nat.max_eq_right (Nat.le_of_lt soon)]
    exact Moment.end?_outlasts outlasts soon ends enough
  · have rung := rung_withTimeout negotiation (Nat.le_of_not_lt soon)
    rw [(run_of_rung rung bound surroundings).1] at ends
    cases ends
    refine Or.inr ⟨(Nat.max_eq_left (Nat.le_of_not_lt soon)).symm, rfl,
      written_le_writtenWithin _ _ _ _ _, fun cancels => ?_⟩
    obtain ⟨first, alarm⟩ := outlasts.cancels cancels
    have rung := rung_withTimeout negotiation (first ▸ Nat.le_of_not_lt soon)
    rw [alarm] at rung
    exact (run_of_rung rung more surroundings).1

theorem run_of_expired (earlier : early ≤ late)
    (ends : (negotiation.withTimeout early).run bound cancelAt surroundings scene = some ended)
    (expired : (alarmsFor cancelAt scene.now early).Expired ended.scene.now)
    (enough : bound ≤ more) :
    ended.result = .error (.timedOut (Span.ofMilliseconds early)) ∧
      ended.scene.now = scene.now + early ∧
      ended.scene.written <+:
        (negotiation.withTimeout late).writtenWithin more cancelAt surroundings scene := by
  obtain ⟨due, uncancelled⟩ := expired
  have first := Alarms.first_of_lasts uncancelled
  rcases run_outlasts earlier ends enough with ⟨soon, _⟩ | ⟨now, result, written, _⟩
  · omega
  · refine ⟨?_, ?_, written⟩
    · rw [result, Alarms.alarm, if_neg uncancelled]
      rfl
    · rw [now, first]
      exact Nat.max_eq_right (Nat.le_add_right _ _)

theorem run_of_not_expired (earlier : early ≤ late)
    (ends : (negotiation.withTimeout early).run bound cancelAt surroundings scene = some ended)
    (lasts : ¬ (alarmsFor cancelAt scene.now early).Expired ended.scene.now)
    (enough : bound ≤ more) :
    (negotiation.withTimeout late).run more cancelAt surroundings scene = some ended := by
  rcases run_outlasts earlier ends enough with ⟨_, same⟩ | ⟨now, _, _, cancelled⟩
  · exact same
  · refine cancelled (Classical.not_not.mp fun uncancelled => lasts ⟨?_, uncancelled⟩)
    rw [now, ← Alarms.first_of_lasts uncancelled]
    exact Nat.le_max_right _ _

/--
A timeout does nothing but cut a negotiation short. One that ended before its deadline, or that was
cancelled by then, ends in the same way with any longer timeout. One that did not has the timeout as
its result; just that much time has passed; and it has written a part of what it writes with the
longer timeout. One that is cancelled before it begins does nothing at all.
-/
theorem timeout_truncates (negotiation : Negotiation σ) (cancelAt : Option Nat) (surroundings : ω)
    (scene : Scene) (earlier : early ≤ late) :
    (∀ bound ended,
      (negotiation.withTimeout early).run bound cancelAt surroundings scene = some ended →
      (¬ (alarmsFor cancelAt scene.now early).Expired ended.scene.now →
        ∀ more, bound ≤ more →
          (negotiation.withTimeout late).run more cancelAt surroundings scene = some ended) ∧
      ((alarmsFor cancelAt scene.now early).Expired ended.scene.now →
        ended.result = .error (.timedOut (Span.ofMilliseconds early)) ∧
        ended.scene.now = scene.now + early ∧
        (∀ more, bound ≤ more → ended.scene.written <+:
          (negotiation.withTimeout late).writtenWithin more cancelAt surroundings scene) ∧
        ∀ more last,
          (negotiation.withTimeout late).run more cancelAt surroundings scene = some last →
          ended.scene.written <+: last.scene.written)) ∧
    (∀ time, cancelAt = some time → time ≤ scene.now → ∀ bound,
      negotiation.run bound cancelAt surroundings scene =
        some ⟨.error .cancelled, negotiation.registry, surroundings, scene⟩) := by
  refine ⟨fun bound ended ends => ⟨fun lasts more enough => ?_, fun expired => ?_⟩, ?_⟩
  · exact run_of_not_expired earlier ends lasts enough
  · obtain ⟨result, now, _⟩ := run_of_expired earlier ends expired (Nat.le_refl bound)
    refine ⟨result, now, fun more enough => ?_, fun more last others => ?_⟩
    · exact (run_of_expired earlier ends expired enough).2.2
    · -- Whichever of the two runs has more phases, the larger of their bounds is enough for both.
      obtain ⟨_, _, written⟩ :=
        run_of_expired earlier ends expired (Nat.le_max_left bound more)
      rw [(run_of_le others (Nat.le_max_right bound more)).2] at written
      exact written
  · rintro time rfl begun bound
    exact run_of_cancelled begun bound surroundings

def pausing : Negotiation Rehearsed :=
  let part : Part :=
    { cues := [{ answer := .ok (.wait 10), data := [1] },
        { answer := .ok (.wait 10), data := [2] },
        { answer := .ok .failed, info := some (some "end") }] }
  { protocol := "s", start := .live none .client, route := .blobs, settings := .default
    registry := (({} : Registry Rehearsed).register "s" (.constant
      { face := { protocol := "s" }, producing := part, takingOver := part })).2 }

def emptyScene : Scene := { shared := { channel := {} } }

theorem lasts_alarmsFor (now timeout : Nat) : ¬ (alarmsFor none now timeout).Cancels := by
  rintro ⟨_, ⟨⟩, _⟩

/-- Five seconds are too short for the first pause; twenty-five are enough for both. -/
theorem timeout_truncates_pausing :
    ∃ cut whole,
      (pausing.withTimeout 5000).run 20 none () emptyScene = some cut ∧
      (alarmsFor none emptyScene.now 5000).Expired cut.scene.now ∧
      cut.result = .error (.timedOut (Span.ofMilliseconds 5000)) ∧
      cut.scene.now = emptyScene.now + 5000 ∧
      (pausing.withTimeout 25000).run 20 none () emptyScene = some whole ∧
      cut.scene.written <+: whole.scene.written ∧
      cut.scene.written ≠ whole.scene.written ∧
      ¬ (alarmsFor none emptyScene.now 25000).Expired whole.scene.now ∧
      (pausing.withTimeout 40000).run 20 none () emptyScene = some whole := by
  have short : ((pausing.withTimeout 5000).run 20 none () emptyScene).map
      (fun ended => (ended.scene.now, ended.scene.written)) =
        some (5000, [[0, 0, 0, 1, 1]]) := by decide +kernel
  have long : ((pausing.withTimeout 25000).run 20 none () emptyScene).map
      (fun ended => (ended.scene.now, ended.scene.written)) =
        some (20000, [[0, 0, 0, 1, 1], [0, 0, 0, 1, 2]]) := by decide +kernel
  obtain ⟨cut, cutRan, cutSeen⟩ := Option.map_eq_some_iff.mp short
  obtain ⟨whole, wholeRan, wholeSeen⟩ := Option.map_eq_some_iff.mp long
  obtain ⟨cutNow, cutWritten⟩ := Prod.mk.inj cutSeen
  obtain ⟨wholeNow, wholeWritten⟩ := Prod.mk.inj wholeSeen
  have expired : (alarmsFor none emptyScene.now 5000).Expired cut.scene.now := by
    refine ⟨?_, lasts_alarmsFor _ _⟩
    rw [cutNow]
    decide
  have lasts : ¬ (alarmsFor none emptyScene.now 25000).Expired whole.scene.now := by
    rw [wholeNow]
    exact fun expired => absurd expired.1 (by decide)
  obtain ⟨result, now, _, written⟩ :=
    ((timeout_truncates pausing none () emptyScene
      (show 5000 ≤ 25000 by decide)).1 20 cut cutRan).2 expired
  have same := ((timeout_truncates pausing none () emptyScene
    (show 25000 ≤ 40000 by decide)).1 20 whole wholeRan).1 lasts 20 (Nat.le_refl _)
  refine ⟨cut, whole, cutRan, expired, result, now, wholeRan, written 20 whole wholeRan, ?_,
    lasts, same⟩
  rw [cutWritten, wholeWritten]
  decide

end Negotiation

end Parley
