import Mathlib.Order.Bounds.Basic
import Parley.Negotiation.Retry
import Parley.Proofs.Negotiation.Routes
import Parley.Proofs.Negotiation.Writes
import Parley.Proofs.Registry.Drawn
import Parley.Rehearsed

/-!
Retries in a row. Whichever loop repeats the attempts, as long as it repeats what it is told to and
no more often than it may, makes them up to the first one that is final or the last one allowed.
-/

namespace Parley

/--
What retries: from how often it may repeat an operation on a state, the operation, what errors are
accepted in what state, and the state before. An operation may fail to come to an end.
-/
abbrev Retrier (τ ε α : Type) :=
  Nat → (τ → Option (Except ε α × τ)) → (ε → τ → Bool) → τ → Option (Except ε α × τ)

/--
It runs the operation, and on an error that is accepted repeats it, at most so many times more.
-/
structure Repeats {τ ε α : Type} (loop : Retrier τ ε α) : Prop where
  unfinished {times : Nat} {operation : τ → Option (Except ε α × τ)} {accepted : ε → τ → Bool}
    {state : τ} (ran : operation state = none) : loop times operation accepted state = none
  done {times : Nat} {operation : τ → Option (Except ε α × τ)} {accepted : ε → τ → Bool}
    {state later : τ} {value : α} (ran : operation state = some (.ok value, later)) :
    loop times operation accepted state = some (.ok value, later)
  declined {times : Nat} {operation : τ → Option (Except ε α × τ)} {accepted : ε → τ → Bool}
    {state later : τ} {error : ε} (ran : operation state = some (.error error, later))
    (refused : accepted error later = false) :
    loop times operation accepted state = some (.error error, later)
  exhausted {operation : τ → Option (Except ε α × τ)} {accepted : ε → τ → Bool}
    {state later : τ} {error : ε} (ran : operation state = some (.error error, later)) :
    loop 0 operation accepted state = some (.error error, later)
  repeated {times : Nat} {operation : τ → Option (Except ε α × τ)} {accepted : ε → τ → Bool}
    {state later : τ} {error : ε} (ran : operation state = some (.error error, later))
    (retried : accepted error later = true) :
    loop (times + 1) operation accepted state = loop times operation accepted later

/-- The attempts made so far, how often a connection was asked for, and what the last one left. -/
structure Trials (ω σ : Type) where
  made : List (Attempts ω σ) := []
  connected : Nat := 0
  registry : Registry σ
  surroundings : ω
  now : Nat := 0
  cancelAt : Option Nat

namespace Trials

variable {ω σ : Type}

def add (trials : Trials ω σ) (one : Attempts ω σ) : Trials ω σ :=
  { made := trials.made ++ [one]
    connected := trials.connected + 1
    registry := one.registry
    surroundings := one.surroundings
    now := one.now
    cancelAt := one.cancelAt }

def accepts (fault : Fault) (trials : Trials ω σ) : Bool :=
  fault.isRetryable && !trials.cancelAt.any (· ≤ trials.now)

end Trials

namespace Attempts

variable {ω σ : Type} {one : Attempts ω σ} {trials : Trials ω σ}

/--
An attempt after which there is no other one: it has an outcome, its fault cannot be cured, or the
negotiation was cancelled by its end.
-/
def Final (one : Attempts ω σ) : Prop :=
  (∃ outcome, one.result = .ok outcome) ∨
  (∃ fault, one.result = .error fault ∧ fault.isRetryable = false) ∨
  one.isCancelled = true

theorem final_iff : one.Final ↔ one.isRetried = false := by
  rw [Final, isRetried]
  rcases answered : one.result with fault | outcome
  · by_cases curable : fault.isRetryable = true <;> simp [curable]
  · exact ⟨fun _ => rfl, fun _ => Or.inl ⟨outcome, rfl⟩⟩

theorem accepts_of_not_final (openEnded : ¬ one.Final) (trials : Trials ω σ) :
    ∃ fault, one.result = .error fault ∧ Trials.accepts fault (trials.add one) = true := by
  have retried : one.isRetried = true := by simpa using mt final_iff.mpr openEnded
  rw [isRetried] at retried
  rcases answered : one.result with fault | outcome
  · rw [answered] at retried
    exact ⟨fault, rfl, retried⟩
  · rw [answered] at retried
    cases retried

theorem not_accepts_of_final (final : one.Final) {fault : Fault}
    (failed : one.result = .error fault) (trials : Trials ω σ) :
    Trials.accepts fault (trials.add one) = false := by
  have settled := final_iff.mp final
  rw [isRetried, failed] at settled
  exact settled

def joined : List (Attempts ω σ) → Option (Attempts ω σ)
  | [] => none
  | [one] => some one
  | first :: second :: later => (joined (second :: later)).map first.append

theorem joined_cons (first : Attempts ω σ) {later : List (Attempts ω σ)} (more : later ≠ []) :
    joined (first :: later) = (joined later).map first.append := by
  cases later with
  | nil => exact absurd rfl more
  | cons second later => rfl

end Attempts

namespace Negotiation

variable {ω σ : Type} [HasFace σ] [Handler ω σ] {bound : Nat} {connect : Nat → Connection}
  {negotiation : Negotiation σ}

def attemptAfter (bound : Nat) (connect : Nat → Connection) (negotiation : Negotiation σ)
    (trials : Trials ω σ) : Option (Attempts ω σ) :=
  { negotiation with registry := trials.registry }.attempt bound trials.cancelAt
    trials.surroundings trials.now (connect trials.connected)

def tryOnce (bound : Nat) (connect : Nat → Connection) (negotiation : Negotiation σ)
    (trials : Trials ω σ) : Option (Except Fault Outcome × Trials ω σ) :=
  (negotiation.attemptAfter bound connect trials).map fun one => (one.result, trials.add one)

def trialsAfter (bound : Nat) (connect : Nat → Connection) (negotiation : Negotiation σ)
    (start : Trials ω σ) : Nat → Option (Trials ω σ)
  | 0 => some start
  | count + 1 =>
    (negotiation.trialsAfter bound connect start count).bind fun trials =>
      (negotiation.attemptAfter bound connect trials).map trials.add

def tried (bound : Nat) (connect : Nat → Connection) (negotiation : Negotiation σ)
    (start : Trials ω σ) (number : Nat) : Option (Attempts ω σ) :=
  (negotiation.trialsAfter bound connect start number).bind
    (negotiation.attemptAfter bound connect)

def untried (negotiation : Negotiation σ) (cancelAt : Option Nat) (surroundings : ω) :
    Trials ω σ :=
  { registry := negotiation.registry, surroundings, cancelAt }

/-! ## Attempts in a row -/

section

variable {start trials later : Trials ω σ} {one : Attempts ω σ} {count number : Nat}

theorem trialsAfter_succ_iff :
    negotiation.trialsAfter bound connect start (count + 1) = some later ↔
      ∃ trials one, negotiation.trialsAfter bound connect start count = some trials ∧
        negotiation.attemptAfter bound connect trials = some one ∧ trials.add one = later := by
  simp only [trialsAfter, Option.bind_eq_some_iff, Option.map_eq_some_iff]
  constructor
  · rintro ⟨trials, after, one, made, rfl⟩
    exact ⟨trials, one, after, made, rfl⟩
  · rintro ⟨trials, one, after, made, rfl⟩
    exact ⟨trials, after, one, made, rfl⟩

theorem tried_iff :
    negotiation.tried bound connect start number = some one ↔
      ∃ trials, negotiation.trialsAfter bound connect start number = some trials ∧
        negotiation.attemptAfter bound connect trials = some one :=
  Option.bind_eq_some_iff

theorem trialsAfter_of_le (after : negotiation.trialsAfter bound connect start count = some later)
    (earlier : number ≤ count) :
    ∃ trials, negotiation.trialsAfter bound connect start number = some trials := by
  induction count generalizing later with
  | zero => exact ⟨later, (Nat.le_zero.mp earlier) ▸ after⟩
  | succ count ih =>
      rcases Nat.lt_or_eq_of_le earlier with less | rfl
      · obtain ⟨trials, _, before, _⟩ := trialsAfter_succ_iff.mp after
        exact ih before (Nat.le_of_lt_succ less)
      · exact ⟨later, after⟩

theorem made_trialsAfter (fresh : start.made = []) (unconnected : start.connected = 0)
    (after : negotiation.trialsAfter bound connect start count = some trials) :
    trials.connected = count ∧ trials.made.length = count ∧
      ∀ number < count, trials.made[number]? = negotiation.tried bound connect start number := by
  induction count generalizing trials with
  | zero =>
      cases after
      rw [fresh, unconnected]
      exact ⟨rfl, rfl, fun number noneYet => absurd noneYet (Nat.not_lt_zero number)⟩
  | succ count ih =>
      obtain ⟨before, one, reached, made, rfl⟩ := trialsAfter_succ_iff.mp after
      obtain ⟨connected, length, all⟩ := ih reached
      refine ⟨by rw [Trials.add, connected], ?_, fun number within => ?_⟩
      · rw [Trials.add, List.length_append, length]
        rfl
      · rw [Trials.add]
        rcases Nat.lt_or_eq_of_le (Nat.le_of_lt_succ within) with less | rfl
        · rw [List.getElem?_append_left (by omega), all number less]
        · rw [List.getElem?_append_right (by omega), length, Nat.sub_self,
            tried_iff.mpr ⟨before, reached, made⟩]
          rfl

end

/-! ## Loops -/

section

variable {start trials later : Trials ω σ} {one : Attempts ω σ} {limit left number : Nat}
  {result : Except Fault Outcome}
  {loop : Retrier (Trials ω σ) Fault Outcome}

/-- An attempt with which a loop stops: it is the last one allowed, or it is final. -/
def Stops (bound : Nat) (connect : Nat → Connection) (negotiation : Negotiation σ)
    (start : Trials ω σ) (limit number : Nat) : Prop :=
  number = limit ∨ ∃ one, negotiation.tried bound connect start number = some one ∧ one.Final

theorem loop_stuck (repeats : Repeats loop)
    (stuck : negotiation.attemptAfter bound connect trials = none) :
    loop left (negotiation.tryOnce bound connect) Trials.accepts trials = none :=
  repeats.unfinished (by rw [tryOnce, stuck]; rfl)

theorem loop_stops (repeats : Repeats loop)
    (made : negotiation.attemptAfter bound connect trials = some one)
    (stops : left = 0 ∨ one.Final) :
    loop left (negotiation.tryOnce bound connect) Trials.accepts trials =
      some (one.result, trials.add one) := by
  have ran : negotiation.tryOnce bound connect trials = some (one.result, trials.add one) := by
    rw [tryOnce, made]
    rfl
  rcases answered : one.result with fault | outcome
  · rw [answered] at ran
    rcases stops with rfl | final
    · exact repeats.exhausted ran
    · exact repeats.declined ran (Attempts.not_accepts_of_final final answered trials)
  · rw [answered] at ran
    exact repeats.done ran

theorem loop_goes_on (repeats : Repeats loop)
    (made : negotiation.attemptAfter bound connect trials = some one)
    (openEnded : ¬ one.Final) :
    loop (left + 1) (negotiation.tryOnce bound connect) Trials.accepts trials =
      loop left (negotiation.tryOnce bound connect) Trials.accepts (trials.add one) := by
  obtain ⟨fault, failed, accepted⟩ := Attempts.accepts_of_not_final openEnded trials
  have ran : negotiation.tryOnce bound connect trials = some (.error fault, trials.add one) := by
    rw [tryOnce, made, ← failed]
    rfl
  exact repeats.repeated ran accepted

theorem least_of_stops (stops : negotiation.Stops bound connect start limit number) (last : Nat) :
    IsLeast {other | number ≤ other ∧ negotiation.Stops bound connect start limit other} last ↔
      last = number := by
  have least : IsLeast
      {other | number ≤ other ∧ negotiation.Stops bound connect start limit other} number :=
    ⟨⟨Nat.le_refl _, stops⟩, fun other member => member.1⟩
  exact ⟨fun other => other.unique least, fun same => same ▸ least⟩

theorem stops_later (openEnded : ¬ negotiation.Stops bound connect start limit number) :
    {other | number ≤ other ∧ negotiation.Stops bound connect start limit other} =
      {other | number + 1 ≤ other ∧ negotiation.Stops bound connect start limit other} := by
  ext other
  constructor
  · rintro ⟨fromHere, stops⟩
    refine ⟨Nat.lt_of_le_of_ne fromHere ?_, stops⟩
    rintro rfl
    exact openEnded stops
  · rintro ⟨later, stops⟩
    exact ⟨Nat.le_of_succ_le later, stops⟩

theorem tried_of_stuck (after : negotiation.trialsAfter bound connect start number = some trials)
    (stuck : negotiation.attemptAfter bound connect trials = none) {last : Nat}
    (fromHere : number ≤ last) : negotiation.tried bound connect start last ≠ some one := by
  intro reached
  obtain ⟨before, there, made⟩ := tried_iff.mp reached
  rcases Nat.lt_or_eq_of_le fromHere with later | rfl
  · obtain ⟨next, reached⟩ := trialsAfter_of_le there later
    obtain ⟨same, other, again, made, _⟩ := trialsAfter_succ_iff.mp reached
    cases after.symm.trans again
    cases stuck.symm.trans made
  · cases after.symm.trans there
    cases stuck.symm.trans made

theorem loop_iff_here (repeats : Repeats loop)
    (after : negotiation.trialsAfter bound connect start number = some trials)
    (stops : negotiation.Stops bound connect start limit number)
    (ends : left = 0 ∨ ∃ one, negotiation.attemptAfter bound connect trials = some one ∧
      one.Final) :
    loop left (negotiation.tryOnce bound connect) Trials.accepts trials = some (result, later) ↔
      ∃ last final,
        IsLeast {other | number ≤ other ∧ negotiation.Stops bound connect start limit other} last ∧
        negotiation.tried bound connect start last = some final ∧ final.result = result ∧
        negotiation.trialsAfter bound connect start (last + 1) = some later := by
  simp only [least_of_stops stops, exists_and_left, exists_eq_left]
  rcases made : negotiation.attemptAfter bound connect trials with _ | one
  · rw [loop_stuck repeats made]
    refine ⟨nofun, ?_⟩
    rintro ⟨final, reached, _⟩
    exact absurd reached (tried_of_stuck after made (Nat.le_refl _))
  · have here := tried_iff.mpr ⟨trials, after, made⟩
    have next := trialsAfter_succ_iff.mpr ⟨trials, one, after, made, rfl⟩
    have final : left = 0 ∨ one.Final := by
      rcases ends with noneLeft | ⟨other, same, final⟩
      · exact Or.inl noneLeft
      · cases made.symm.trans same
        exact Or.inr final
    rw [loop_stops repeats made final, here, next]
    constructor
    · rintro ⟨⟩
      exact ⟨one, rfl, rfl, rfl⟩
    · rintro ⟨_, ⟨⟩, rfl, ⟨⟩⟩
      rfl

/-- A loop makes the attempts up to the least one with which it stops. -/
theorem loop_iff (repeats : Repeats loop)
    (after : negotiation.trialsAfter bound connect start number = some trials)
    (reaches : number + left = limit) :
    loop left (negotiation.tryOnce bound connect) Trials.accepts trials = some (result, later) ↔
      ∃ last final,
        IsLeast {other | number ≤ other ∧ negotiation.Stops bound connect start limit other} last ∧
        negotiation.tried bound connect start last = some final ∧ final.result = result ∧
        negotiation.trialsAfter bound connect start (last + 1) = some later := by
  induction left generalizing number trials with
  | zero =>
      have stops : negotiation.Stops bound connect start limit number := Or.inl reaches
      exact loop_iff_here repeats after stops (Or.inl rfl)
  | succ left ih =>
      rcases made : negotiation.attemptAfter bound connect trials with _ | one
      · rw [loop_stuck repeats made]
        refine ⟨nofun, ?_⟩
        rintro ⟨last, final, ⟨⟨fromHere, _⟩, _⟩, reached, _⟩
        exact absurd reached (tried_of_stuck after made fromHere)
      · have here := tried_iff.mpr ⟨trials, after, made⟩
        by_cases final : one.Final
        · exact loop_iff_here repeats after (Or.inr ⟨one, here, final⟩) (Or.inr ⟨one, made, final⟩)
        · have openEnded : ¬ negotiation.Stops bound connect start limit number := by
            rintro (last | ⟨other, there, settled⟩)
            · omega
            · cases here.symm.trans there
              exact final settled
          have next := trialsAfter_succ_iff.mpr ⟨trials, one, after, made, rfl⟩
          rw [loop_goes_on repeats made final, stops_later openEnded]
          exact ih next (by omega)

/-! ## The attempts of the negotiation -/

theorem loop_made (repeats : Repeats loop)
    (ran : loop left (negotiation.tryOnce bound connect) Trials.accepts trials =
      some (result, later)) :
    ∃ first rest, later.made = trials.made ++ first :: rest := by
  induction left generalizing trials with
  | zero =>
      rcases made : negotiation.attemptAfter bound connect trials with _ | one
      · rw [loop_stuck repeats made] at ran
        cases ran
      · rw [loop_stops repeats made (Or.inl rfl)] at ran
        cases ran
        exact ⟨one, [], rfl⟩
  | succ left ih =>
      rcases made : negotiation.attemptAfter bound connect trials with _ | one
      · rw [loop_stuck repeats made] at ran
        cases ran
      · by_cases final : one.Final
        · rw [loop_stops repeats made (Or.inr final)] at ran
          cases ran
          exact ⟨one, [], rfl⟩
        · rw [loop_goes_on repeats made final] at ran
          obtain ⟨second, rest, kept⟩ := ih ran
          refine ⟨one, second :: rest, kept.trans ?_⟩
          rw [Trials.add, List.append_assoc]
          rfl

theorem attemptsFrom_stops (made : negotiation.attemptAfter bound connect trials = some one)
    (stops : left = 0 ∨ one.Final) :
    attemptsFrom bound connect left trials.connected trials.cancelAt
      { negotiation with registry := trials.registry } trials.surroundings trials.now =
        some one := by
  rw [attemptAfter] at made
  cases left with
  | zero => rw [attemptsFrom, made]
  | succ left =>
      rcases stops with noneLeft | final
      · cases noneLeft
      · rw [attemptsFrom, made]
        simp only [Attempts.final_iff.mp final, Bool.false_eq_true, if_false]

theorem attemptsFrom_stuck (stuck : negotiation.attemptAfter bound connect trials = none) :
    attemptsFrom bound connect left trials.connected trials.cancelAt
      { negotiation with registry := trials.registry } trials.surroundings trials.now = none := by
  rw [attemptAfter] at stuck
  cases left <;> rw [attemptsFrom, stuck]

theorem attemptsFrom_goes_on (made : negotiation.attemptAfter bound connect trials = some one)
    (openEnded : ¬ one.Final) :
    attemptsFrom bound connect (left + 1) trials.connected trials.cancelAt
        { negotiation with registry := trials.registry } trials.surroundings trials.now =
      (attemptsFrom bound connect left (trials.add one).connected (trials.add one).cancelAt
        { negotiation with registry := (trials.add one).registry } (trials.add one).surroundings
        (trials.add one).now).map one.append := by
  have retried : one.isRetried = true := by simpa using mt Attempts.final_iff.mpr openEnded
  rw [attemptAfter] at made
  rw [attemptsFrom, made]
  simp only [retried, if_true]
  rfl

theorem attemptsFrom_iff_here (repeats : Repeats loop)
    (made : negotiation.attemptAfter bound connect trials = some one)
    (stops : left = 0 ∨ one.Final) (total : Attempts ω σ) :
    attemptsFrom bound connect left trials.connected trials.cancelAt
        { negotiation with registry := trials.registry } trials.surroundings trials.now =
      some total ↔
      ∃ later more, loop left (negotiation.tryOnce bound connect) Trials.accepts trials =
        some (total.result, later) ∧ later.made = trials.made ++ more ∧
        Attempts.joined more = some total := by
  rw [attemptsFrom_stops made stops, loop_stops repeats made stops]
  constructor
  · rintro ⟨⟩
    exact ⟨_, [one], rfl, rfl, rfl⟩
  · rintro ⟨later, more, ran, kept, joined⟩
    obtain rfl : trials.add one = later := (Prod.mk.inj (Option.some.inj ran)).2
    obtain rfl : [one] = more := List.append_cancel_left kept
    exact joined

/-- The attempts that the negotiation makes by itself are those that a loop makes. -/
theorem attemptsFrom_iff (repeats : Repeats loop) (trials : Trials ω σ) (total : Attempts ω σ) :
    attemptsFrom bound connect left trials.connected trials.cancelAt
        { negotiation with registry := trials.registry } trials.surroundings trials.now =
      some total ↔
      ∃ later more, loop left (negotiation.tryOnce bound connect) Trials.accepts trials =
        some (total.result, later) ∧ later.made = trials.made ++ more ∧
        Attempts.joined more = some total := by
  induction left generalizing trials total with
  | zero =>
      rcases made : negotiation.attemptAfter bound connect trials with _ | one
      · rw [attemptsFrom_stuck made, loop_stuck repeats made]
        simp
      · exact attemptsFrom_iff_here repeats made (Or.inl rfl) total
  | succ left ih =>
      rcases made : negotiation.attemptAfter bound connect trials with _ | one
      · rw [attemptsFrom_stuck made, loop_stuck repeats made]
        simp
      · by_cases final : one.Final
        · exact attemptsFrom_iff_here repeats made (Or.inr final) total
        · rw [attemptsFrom_goes_on made final, loop_goes_on repeats made final,
            Option.map_eq_some_iff]
          constructor
          · rintro ⟨rest, found, rfl⟩
            obtain ⟨later, more, ran, kept, joined⟩ := (ih _ rest).mp found
            have someMore : more ≠ [] := by
              rintro rfl
              cases joined
            refine ⟨later, one :: more, ran, ?_, ?_⟩
            · rw [kept, Trials.add, List.append_assoc]
              rfl
            · rw [Attempts.joined_cons one someMore, joined]
              rfl
          · rintro ⟨later, more, ran, kept, joined⟩
            obtain ⟨second, rest, grown⟩ := loop_made repeats ran
            have same : one :: second :: rest = more := by
              rw [grown, Trials.add, List.append_assoc] at kept
              exact List.append_cancel_left kept
            subst same
            rw [Attempts.joined_cons one (by simp), Option.map_eq_some_iff] at joined
            obtain ⟨total, joined, rfl⟩ := joined
            exact ⟨total, (ih _ total).mpr ⟨later, second :: rest, ran, grown, joined⟩, rfl⟩

end

/-! ## Fresh connections and handlers -/

section

variable {trials : Trials ω σ} {one : Attempts ω σ} {moment : Moment ω σ} {alarms : Alarms}
  {ended : Ended ω σ}

theorem drawn_enter (negotiation : Negotiation σ) (next : σ → Phase σ) (surroundings : ω) :
    negotiation.registry.Drawn [negotiation.protocol]
      (negotiation.enter next surroundings).registry := by
  have drawn := (Registry.drawn_nil negotiation.registry).create negotiation.protocol
  rw [enter, prepare_eq]
  rcases (negotiation.registry.create negotiation.protocol).1 with fault | handler
  · exact drawn
  · exact drawn

theorem drawn_follow (negotiation : Negotiation σ) (handler : σ) (chain : List String)
    (surroundings : ω) :
    ∃ names,
      negotiation.registry.Drawn names (negotiation.follow handler chain surroundings).registry := by
  have noneMade := Registry.drawn_nil negotiation.registry
  rw [follow]
  split
  · exact ⟨[], noneMade⟩
  · rename_i name _
    have drawn := noneMade.create name
    dsimp only
    split
    · exact ⟨[], noneMade⟩
    · split
      · rename_i created
        rw [created] at drawn
        exact ⟨_, drawn⟩
      · rename_i created
        rw [created] at drawn
        exact ⟨_, drawn⟩

theorem drawn_advance (negotiation : Negotiation σ) (surroundings : ω) :
    ∃ names, negotiation.registry.Drawn names (negotiation.advance surroundings).registry := by
  have noneMade := Registry.drawn_nil negotiation.registry
  rw [advance]
  dsimp only
  split
  · split <;> exact ⟨_, drawn_enter _ _ _⟩
  · exact ⟨[], noneMade⟩
  · exact ⟨[], noneMade⟩
  · exact ⟨[], noneMade⟩
  · exact drawn_follow _ _ _ _
  · exact ⟨[], noneMade⟩
  · exact ⟨[], noneMade⟩
  · exact ⟨[], noneMade⟩
  · exact ⟨[], noneMade⟩
  · exact ⟨_, drawn_enter _ _ _⟩
  · exact ⟨[], noneMade⟩
  · exact ⟨[], noneMade⟩
  · exact ⟨[], noneMade⟩

theorem drawn_opening {negotiation : Negotiation σ} (opening : negotiation.phase = .opening)
    (surroundings : ω) :
    negotiation.registry.Drawn [negotiation.protocol]
      (negotiation.advance surroundings).registry := by
  rw [advance, opening]
  dsimp only
  split <;> exact drawn_enter _ _ _

theorem Moment.registry_of_step {next : Moment ω σ} (moves : moment.step alarms = .inl next) :
    next.negotiation.registry = (moment.negotiation.advance moment.surroundings).registry := by
  rw [step] at moves
  dsimp only at moves
  split at moves <;> cases moves
  rfl

theorem Moment.registry_of_stop (stops : moment.step alarms = .inr ended) :
    ended.registry = (moment.negotiation.advance moment.surroundings).registry := by
  rw [step] at stops
  dsimp only at stops
  split at stops <;> cases stops
  rfl

theorem Moment.drawn_end? (ends : moment.end? alarms bound = some ended) :
    ∃ names, (moment.negotiation.advance moment.surroundings).registry.Drawn names
      ended.registry := by
  induction bound generalizing moment with
  | zero => cases ends
  | succ bound ih =>
      rw [Moment.end?_succ] at ends
      rcases stepped : moment.step alarms with next | last
      · rw [stepped] at ends
        obtain ⟨later, drawn⟩ := ih ends
        obtain ⟨names, first⟩ := drawn_advance next.negotiation next.surroundings
        rw [registry_of_step stepped] at first
        exact ⟨names ++ later, first.trans drawn⟩
      · rw [stepped] at ends
        cases ends
        rw [registry_of_stop stepped]
        exact ⟨[], Registry.drawn_nil _⟩

theorem run_drawn {negotiation : Negotiation σ} (opening : negotiation.phase = .opening)
    {cancelAt : Option Nat} {surroundings : ω} {scene : Scene}
    (quiet : (Alarms.starting cancelAt negotiation.settings scene.now).rung scene.now = none)
    (ends : negotiation.run bound cancelAt surroundings scene = some ended) :
    ∃ names, negotiation.registry.Drawn (negotiation.protocol :: names) ended.registry := by
  rw [run_of_quiet quiet] at ends
  obtain ⟨names, drawn⟩ := Moment.drawn_end? ends
  exact ⟨names, (drawn_opening opening surroundings).trans drawn⟩

/--
An attempt with what is its own: there was no connection, or a new one was worked on from the start
by a new handler. An attempt that is cut short at once has no use for a handler.
-/
inductive Afresh (bound : Nat) (negotiation : Negotiation σ) (trials : Trials ω σ)
    (one : Attempts ω σ) : Connection → Prop
  | unconnected {fault : Fault} {cancels : Bool} {delay : Nat}
      (result : one.result = .error fault) :
      Afresh bound negotiation trials one ⟨.error fault, cancels, delay⟩
  | connected {channel : Script} {cancels : Bool} {delay : Nat} {cancelAt : Option Nat}
      {ended : Ended ω σ}
      (ran : { negotiation with registry := trials.registry }.run bound cancelAt
        trials.surroundings { shared := { channel }, now := trials.now + delay } = some ended)
      (result : one.result = ended.result) (written : one.written = [ended.scene.written])
      (drawn : (∃ fault, (Alarms.starting cancelAt negotiation.settings (trials.now + delay)).rung
          (trials.now + delay) = some fault ∧ one.result = .error fault) ∨
        ∃ names, trials.registry.Drawn (negotiation.protocol :: names) one.registry) :
      Afresh bound negotiation trials one ⟨.ok channel, cancels, delay⟩

theorem afresh_attemptAfter (opening : negotiation.phase = .opening)
    (made : negotiation.attemptAfter bound connect trials = some one) :
    Afresh bound negotiation trials one (connect trials.connected) := by
  rw [attemptAfter, attempt] at made
  generalize connect trials.connected = connection at made ⊢
  rcases connection with ⟨_ | channel, cancels, delay⟩
  · cases made
    exact .unconnected rfl
  · obtain ⟨ended, ran, rfl⟩ := Option.map_eq_some_iff.mp made
    refine .connected ran rfl rfl ?_
    generalize (if cancels = true then some (trials.now + delay) else trials.cancelAt) =
      cancelAt at ran
    let retried : Negotiation σ := { negotiation with registry := trials.registry }
    have entering : retried.phase = .opening := opening
    rcases rung : (Alarms.starting cancelAt negotiation.settings (trials.now + delay)).rung
      (trials.now + delay) with _ | fault
    · exact Or.inr (run_drawn entering rung ran)
    · have cut : retried.run bound cancelAt trials.surroundings
          { shared := { channel }, now := trials.now + delay } =
          some ⟨.error fault, trials.registry, trials.surroundings,
            { shared := { channel }, now := trials.now + delay }⟩ := (run_of_rung rung bound _).1
      cases cut.symm.trans ran
      exact Or.inl ⟨fault, rfl, rfl⟩

/-- An attempt whose turn comes after the negotiation was cancelled is in vain, and the last. -/
theorem attempt_of_cancelled {connection : Connection} {channel : Script} {time now : Nat}
    (connected : connection.channel = .ok channel) (cancelled : time ≤ now + connection.delay)
    (negotiation : Negotiation σ) (bound : Nat) (surroundings : ω) :
    ∃ one, negotiation.attempt bound (some time) surroundings now connection = some one ∧
      one.result = .error .cancelled ∧ one.written = [channel.written] ∧
      one.registry = negotiation.registry ∧ one.surroundings = surroundings ∧ one.Final := by
  obtain ⟨_, cancels, delay⟩ := connection
  cases connected
  have due : ∃ last, (if cancels then some (now + delay) else some time) = some last ∧
      last ≤ now + delay := by
    cases cancels
    · exact ⟨_, rfl, cancelled⟩
    · exact ⟨_, rfl, Nat.le_refl _⟩
  obtain ⟨last, found, reached⟩ := due
  have cut : negotiation.run bound (some last) surroundings
      { shared := { channel }, now := now + delay } = _ :=
    run_of_cancelled reached bound surroundings
  simp only [attempt, found, cut, Option.map_some]
  refine ⟨_, rfl, rfl, rfl, rfl, rfl, Or.inr (Or.inr ?_)⟩
  simp [Attempts.isCancelled, reached]

end

/-! ## The law of retries -/

section

variable {trials start : Trials ω σ} {one : Attempts ω σ} {count number : Nat}

theorem uncancelled_trialsAfter (never : start.cancelAt = none)
    (calm : ∀ number, (connect number).cancels = false)
    (after : negotiation.trialsAfter bound connect start count = some trials) :
    trials.cancelAt = none := by
  induction count generalizing trials with
  | zero =>
      cases after
      exact never
  | succ count ih =>
      obtain ⟨before, one, reached, made, rfl⟩ := trialsAfter_succ_iff.mp after
      have kept := ih reached
      rw [attemptAfter, attempt, kept, calm before.connected] at made
      dsimp only at made
      split at made
      · cases made
        rfl
      · obtain ⟨ended, _, rfl⟩ := Option.map_eq_some_iff.mp made
        rfl

theorem final_iff_of_uncancelled (never : start.cancelAt = none)
    (calm : ∀ number, (connect number).cancels = false)
    (reached : negotiation.tried bound connect start number = some one) :
    one.Final ↔ (∃ outcome, one.result = .ok outcome) ∨
      ∃ fault, one.result = .error fault ∧ fault.isRetryable = false := by
  obtain ⟨trials, after, made⟩ := tried_iff.mp reached
  have next := trialsAfter_succ_iff.mpr ⟨trials, one, after, made, rfl⟩
  have kept : one.cancelAt = none := uncancelled_trialsAfter never calm next
  have uncancelled : one.isCancelled = false := by
    rw [Attempts.isCancelled, kept]
    rfl
  rw [Attempts.Final, uncancelled]
  simp

end

def retriedBy (loop : Retrier (Trials ω σ) Fault Outcome) (bound : Nat)
    (connect : Nat → Connection) (negotiation : Negotiation σ) (start : Trials ω σ) :
    Option (Except Fault Outcome × Trials ω σ) :=
  loop negotiation.settings.maxRetries (negotiation.tryOnce bound connect) Trials.accepts start

/--
Whatever loop retries a negotiation makes the attempts up to the first one that is final, or up to
the last one that is allowed, and gives the result of that one; and so does the negotiation by
itself. Each attempt asks for one connection and has a handler of its own. None follows an attempt
by whose end the negotiation was cancelled; if nothing cancels it, only outcomes and faults that
cannot be cured are final.
-/
theorem retry_law {loop : Retrier (Trials ω σ) Fault Outcome}
    (repeats : Repeats loop) (bound : Nat) (connect : Nat → Connection)
    (negotiation : Negotiation σ) (opening : negotiation.phase = .opening)
    (cancelAt : Option Nat) (surroundings : ω) :
    let start := negotiation.untried cancelAt surroundings
    (∀ result trials, negotiation.retriedBy loop bound connect start = some (result, trials) ↔
      ∃ last final,
        IsLeast {number |
          negotiation.Stops bound connect start negotiation.settings.maxRetries number} last ∧
        negotiation.tried bound connect start last = some final ∧ final.result = result ∧
        negotiation.trialsAfter bound connect start (last + 1) = some trials) ∧
    (∀ count trials, negotiation.trialsAfter bound connect start count = some trials →
      trials.connected = count ∧ trials.made.length = count ∧
      (∀ number < count, trials.made[number]? = negotiation.tried bound connect start number) ∧
      ∀ one, negotiation.tried bound connect start count = some one →
        Afresh bound negotiation trials one (connect count)) ∧
    (∀ result trials, negotiation.retriedBy loop bound connect start = some (result, trials) →
      ∀ number one, trials.made[number]? = some one → one.isCancelled = true →
        trials.made.length = number + 1) ∧
    (cancelAt = none → (∀ number, (connect number).cancels = false) → ∀ number one,
      negotiation.tried bound connect start number = some one →
      (one.Final ↔ (∃ outcome, one.result = .ok outcome) ∨
        ∃ fault, one.result = .error fault ∧ fault.isRetryable = false)) ∧
    ∀ total, negotiation.runWithRetry bound cancelAt connect surroundings = some total ↔
      ∃ trials, negotiation.retriedBy loop bound connect start = some (total.result, trials) ∧
        Attempts.joined trials.made = some total := by
  intro start
  have law (result : Except Fault Outcome) (trials : Trials ω σ) :
      negotiation.retriedBy loop bound connect start = some (result, trials) ↔
        ∃ last final,
          IsLeast {number |
            negotiation.Stops bound connect start negotiation.settings.maxRetries number} last ∧
          negotiation.tried bound connect start last = some final ∧ final.result = result ∧
          negotiation.trialsAfter bound connect start (last + 1) = some trials := by
    have reached : negotiation.trialsAfter bound connect start 0 = some start := rfl
    refine (loop_iff repeats reached (Nat.zero_add negotiation.settings.maxRetries)).trans ?_
    simp only [Nat.zero_le, true_and]
  have counted {count : Nat} {trials : Trials ω σ}
      (after : negotiation.trialsAfter bound connect start count = some trials) :=
    made_trialsAfter rfl rfl after
  refine ⟨law, fun count trials after => ?_, fun result trials ran number one kept cancelled => ?_,
    fun never calm number one => final_iff_of_uncancelled never calm, fun total => ?_⟩
  · obtain ⟨connected, length, all⟩ := counted after
    refine ⟨connected, length, all, fun one reached => ?_⟩
    obtain ⟨same, again, made⟩ := tried_iff.mp reached
    cases after.symm.trans again
    exact connected ▸ afresh_attemptAfter opening made
  · obtain ⟨last, final, least, _, _, after⟩ := (law result trials).mp ran
    obtain ⟨_, length, all⟩ := counted after
    have within : number < last + 1 := by
      rw [← length]
      exact (List.getElem?_eq_some_iff.mp kept).1
    have stops : negotiation.Stops bound connect start negotiation.settings.maxRetries number :=
      Or.inr ⟨one, (all number within).symm.trans kept, Or.inr (Or.inr cancelled)⟩
    have earliest : last ≤ number := least.2 stops
    omega
  · refine (attemptsFrom_iff repeats start total).trans ?_
    constructor
    · rintro ⟨later, more, ran, kept, joined⟩
      exact ⟨later, ran, kept ▸ joined⟩
    · rintro ⟨later, ran, joined⟩
      exact ⟨later, later.made, ran, rfl, joined⟩

def repeating {τ ε α : Type} : Retrier τ ε α
  | 0, operation, _, state => operation state
  | times + 1, operation, accepted, state =>
    match operation state with
    | none => none
    | some (.ok value, later) => some (.ok value, later)
    | some (.error error, later) =>
      if accepted error later then repeating times operation accepted later
      else some (.error error, later)

theorem repeats_repeating {τ ε α : Type} : Repeats (repeating : Retrier τ ε α) where
  unfinished {times} _ _ _ ran := by cases times <;> simp only [repeating, ran]
  done {times} _ _ _ _ _ ran := by cases times <;> simp only [repeating, ran]
  declined {times} _ _ _ _ _ ran refused := by
    cases times <;> simp only [repeating, ran, refused, Bool.false_eq_true, if_false]
  exhausted ran := ran
  repeated ran retried := by simp only [repeating, ran, retried, if_true]

def refusedTwice (number : Nat) : Connection :=
  if number < 2 then { channel := .error (.transport { kind := .connectionRefused }) }
  else { channel := .ok {} }

def failing : Negotiation Rehearsed :=
  { protocol := "s", start := .live none .client, route := .blobs, settings := .default
    registry := (({} : Registry Rehearsed).register "s" (.constant
      { face := { protocol := "s", info := some "no" }
        producing := { cues := [{ answer := .ok .failed }] } })).2 }

theorem retry_law_refusedTwice :
    ∃ total trials final, failing.runWithRetry 10 none refusedTwice () = some total ∧
      total.result = .ok (.failed "s" "no") ∧ total.written = [[], [], []] ∧
      failing.retriedBy repeating 10 refusedTwice (failing.untried none ()) =
        some (total.result, trials) ∧
      trials.connected = 3 ∧
      IsLeast {number |
        failing.Stops 10 refusedTwice (failing.untried none ()) failing.settings.maxRetries number}
        2 ∧
      failing.tried 10 refusedTwice (failing.untried none ()) 2 = some final ∧
      final.result = total.result := by
  have shown : (failing.runWithRetry 10 none refusedTwice ()).map
      (fun total => (total.result, total.written)) =
        some (.ok (.failed "s" "no"), [[], [], []]) := by decide +kernel
  have counts : (failing.retriedBy repeating 10 refusedTwice (failing.untried none ())).map
      (fun ran => ran.2.connected) = some 3 := by decide +kernel
  obtain ⟨law, counted, _, _, byItself⟩ :=
    retry_law repeats_repeating 10 refusedTwice failing rfl none ()
  obtain ⟨total, makes, seen⟩ := Option.map_eq_some_iff.mp shown
  obtain ⟨result, written⟩ := Prod.mk.inj seen
  obtain ⟨trials, ran, _⟩ := (byItself total).mp makes
  obtain ⟨last, final, least, reached, same, after⟩ := (law _ trials).mp ran
  have three : trials.connected = 3 := by
    rw [ran] at counts
    exact Option.some.inj counts
  have third : last = 2 := by
    have connected := (counted _ trials after).1
    omega
  subst third
  exact ⟨total, trials, final, makes, result, written, ran, three, least, reached, same⟩

end Negotiation

end Parley
