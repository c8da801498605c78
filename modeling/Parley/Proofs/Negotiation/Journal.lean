import Parley.Proofs.Channel.Dialogue
import Parley.Proofs.Negotiation.Moments

/-!
Courses of negotiations: what they come to whatever the channel answers and whoever else leases it.
A journal kept beside the surroundings tells which handlers were initialised and called on the way;
nothing depends on it.
-/

namespace Parley

/-- What may come after an action. A negotiation that is cut short has no more to come. -/
inductive Action.Leads {α : Type} : Action α → α → Prop
  | talk {dialogue : Dialogue α} {next : α} (leads : dialogue.Leads next) :
      Leads (.talk dialogue) next
  | pause (seconds : Nat) (next : α) : Leads (.pause seconds next) next
  | lease (next : Bool → α) (granted : Bool) : Leads (.lease next) (next granted)
  | release (next : α) : Leads (.release next) next

namespace Negotiation

section

variable {ω σ : Type}

theorem leads_of_perform {clock : Clock} {alarms : Alarms} {scene later : Scene}
    {action : Action (Phase σ)} {phase : Phase σ}
    (performed : perform clock alarms scene action = .inl (phase, later)) :
    action.Leads phase := by
  cases action with
  | stop result => cases performed
  | lease next =>
      cases performed
      exact .lease next _
  | release next =>
      cases performed
      exact .release _
  | pause seconds next =>
      simp only [perform] at performed
      split at performed
      · cases performed
      · cases performed
        exact .pause seconds _
  | talk dialogue =>
      simp only [perform] at performed
      rcases played : scene.play dialogue with ⟨_ | next, after⟩
      · simp [played] at performed
      · rw [played] at performed
        cases performed
        simp only [Scene.play, Prod.mk.injEq] at played
        exact .talk (Script.leads_of_play (Prod.ext played.1 rfl))

theorem leads_goOn_iff {phase next : Phase σ} :
    (goOn phase : Action (Phase σ)).Leads next ↔ next = phase := by
  constructor
  · intro leads
    cases leads with
    | talk leads => exact Dialogue.leads_done_iff.mp leads
  · rintro rfl
    exact .talk (.done _)

variable [HasFace σ] [Handler ω σ]

theorem Moment.leads_of_step {alarms : Alarms} {moment next : Moment ω σ}
    (moves : moment.step alarms = .inl next) :
    (moment.negotiation.advance moment.surroundings).action.Leads next.negotiation.phase := by
  rw [step] at moves
  dsimp only at moves
  split at moves
  · rename_i performed
    cases moves
    exact leads_of_perform performed
  · cases moves

theorem Moment.surroundings_of_step {alarms : Alarms} {moment next : Moment ω σ}
    (moves : moment.step alarms = .inl next) :
    next.surroundings = (moment.negotiation.advance moment.surroundings).surroundings := by
  rw [step] at moves
  dsimp only at moves
  split at moves <;> cases moves
  rfl

def proceed (now : Negotiation σ) (registry : Registry σ) (phase : Phase σ) : Negotiation σ :=
  { now with registry, phase }

inductive Course (negotiation : Negotiation σ) (surroundings : ω) : Negotiation σ → ω → Prop
  | begin : Course negotiation surroundings negotiation surroundings
  | step {now : Negotiation σ} {later : ω} {phase : Phase σ}
      (course : Course negotiation surroundings now later)
      (leads : (now.advance later).action.Leads phase) :
      Course negotiation surroundings (now.proceed (now.advance later).registry phase)
        (now.advance later).surroundings

/-- A run is a course up to its last phase, in which it stops or is cut short. -/
theorem Course.of_end? {negotiation : Negotiation σ} {surroundings : ω} {alarms : Alarms}
    {bound : Nat} {moment : Moment ω σ} {ended : Ended ω σ}
    (course : Course negotiation surroundings moment.negotiation moment.surroundings)
    (ends : moment.end? alarms bound = some ended) :
    ∃ last later scene after, Course negotiation surroundings last later ∧
      perform last.clock alarms scene (last.advance later).action = .inr (ended.result, after) ∧
      ended = finish ended.result (last.advance later).registry
        (last.advance later).surroundings after := by
  induction bound generalizing moment with
  | zero => cases ends
  | succ bound ih =>
      rw [Moment.end?_succ, Moment.step] at ends
      rcases performed : perform moment.negotiation.clock alarms moment.scene
        (moment.negotiation.advance moment.surroundings).action with ⟨phase, later⟩ | ⟨result, later⟩
      · rw [performed] at ends
        exact ih (course.step (leads_of_perform performed)) ends
      · rw [performed] at ends
        cases ends
        exact ⟨_, _, _, _, course, performed, rfl⟩

end

end Negotiation

/-! ## The journal -/

inductive Journal.Entry (σ : Type) where
  | initialised (handler : σ) (identity : Option Identity) (role : Role) (result : σ)
  | declared (handler : σ) (attributes : Attributes) (result : σ)
  | called (handler : σ) (call : Call) (answer : Answer) (blob : Blob) (result : σ)

structure Journal (ω σ : Type) where
  surroundings : ω
  entries : List (Journal.Entry σ) := []

namespace Journal

variable {ω σ : Type}

namespace Entry

def handler : Entry σ → σ
  | .initialised handler .. | .declared handler .. | .called handler .. => handler

def result : Entry σ → σ
  | .initialised _ _ _ result | .declared _ _ result | .called _ _ _ _ result => result

def made? : Entry σ → Option σ
  | .initialised handler .. | .declared handler .. => some handler
  | .called .. => none

end Entry

variable [HasFace σ]

def chain (entries : List (Entry σ)) : List String :=
  (entries.filterMap Entry.made?).map fun handler => (face handler).protocol

variable [Handler ω σ]

/-- The same handlers, with a journal kept of their initialisations and of their calls on blobs. -/
instance : Handler (Journal ω σ) σ where
  init handler identity role journal :=
    let initialised : Initialised ω σ := Handler.init handler identity role journal.surroundings
    { initialised with surroundings :=
        ⟨initialised.surroundings,
          journal.entries ++ [.initialised handler identity role initialised.handler]⟩ }
  initFrom handler attributes journal :=
    let initialised : Initialised ω σ := Handler.initFrom handler attributes journal.surroundings
    { initialised with surroundings :=
        ⟨initialised.surroundings,
          journal.entries ++ [.declared handler attributes initialised.handler]⟩ }
  produce handler blob journal :=
    let turn : Turn ω σ := Handler.produce handler blob journal.surroundings
    { turn with surroundings :=
        ⟨turn.surroundings,
          journal.entries ++ [.called handler .produce turn.answer turn.blob turn.handler]⟩ }
  consume handler blob journal :=
    let turn : Turn ω σ := Handler.consume handler blob journal.surroundings
    { turn with surroundings :=
        ⟨turn.surroundings,
          journal.entries ++ [.called handler .consume turn.answer turn.blob turn.handler]⟩ }
  takeOver handler journal :=
    let stretch : Stretch ω σ := Handler.takeOver handler journal.surroundings
    { stretch with surroundings := ⟨stretch.surroundings, journal.entries⟩ }
  carryOn handler journal :=
    let stretch : Stretch ω σ := Handler.carryOn handler journal.surroundings
    { stretch with surroundings := ⟨stretch.surroundings, journal.entries⟩ }

end Journal

namespace Negotiation

variable {ω σ : Type} [HasFace σ] [Handler ω σ]

def forget (advance : Advance (Journal ω σ) σ) : Advance ω σ :=
  { advance with surroundings := advance.surroundings.surroundings }

theorem forget_enter (negotiation : Negotiation σ) (next : σ → Phase σ) (journal : Journal ω σ) :
    forget (negotiation.enter next journal) = negotiation.enter next journal.surroundings := by
  simp only [enter, prepare]
  rcases negotiation.registry.create negotiation.protocol with ⟨_ | handler, registry⟩
  · rfl
  · cases negotiation.start <;> rfl

theorem forget_follow (negotiation : Negotiation σ) (handler : σ) (chain : List String)
    (journal : Journal ω σ) :
    forget (negotiation.follow handler chain journal) =
      negotiation.follow handler chain journal.surroundings := by
  simp only [follow]
  rcases negotiation.successor handler chain with fault | name
  · rfl
  · rcases (face handler).role with _ | role
    · rfl
    · dsimp only
      rcases negotiation.registry.create name with ⟨_ | next, registry⟩ <;> rfl

theorem forget_advance (negotiation : Negotiation σ) (journal : Journal ω σ) :
    forget (negotiation.advance journal) = negotiation.advance journal.surroundings := by
  obtain ⟨protocol, start, route, settings, registry, clock, phase⟩ := negotiation
  cases phase with
  | opening => cases route <;> exact forget_enter _ _ journal
  | claiming next => rfl
  | calling loop =>
      obtain ⟨handler, chain, call, blob⟩ := loop
      cases call <;> rfl
  | obeying loop mode => rfl
  | stopped handler chain mode =>
      cases mode <;> first | exact forget_follow _ _ _ journal | rfl
  | takingOver handler fresh => cases fresh <;> rfl
  | tookOver handler mode => cases mode <;> rfl
  | tookOverFree handler mode => cases mode <;> first | exact forget_enter _ _ journal | rfl
  | «over» result => rfl

variable {negotiation now : Negotiation σ}

theorem Course.forget {start journal : Journal ω σ}
    (course : Course negotiation start now journal) :
    Course negotiation start.surroundings now journal.surroundings := by
  induction course with
  | begin => exact .begin
  | @step now journal phase _ leads ih =>
      have same := forget_advance now journal
      have registry : (now.advance journal).registry =
          (now.advance journal.surroundings).registry := congrArg Advance.registry same
      have action : (now.advance journal).action = (now.advance journal.surroundings).action :=
        congrArg Advance.action same
      have surroundings : (now.advance journal).surroundings.surroundings =
          (now.advance journal.surroundings).surroundings := congrArg Advance.surroundings same
      rw [registry, surroundings]
      rw [action] at leads
      exact ih.step leads

/-- A journal can be kept of any course, and each course with a journal is one without it. -/
theorem course_iff_journal {surroundings later : ω} :
    Course negotiation surroundings now later ↔
      ∃ entries, Course negotiation (⟨surroundings, []⟩ : Journal ω σ) now ⟨later, entries⟩ := by
  constructor
  · intro course
    induction course with
    | begin => exact ⟨[], .begin⟩
    | @step now later phase _ leads ih =>
        obtain ⟨entries, course⟩ := ih
        have same := forget_advance now (⟨later, entries⟩ : Journal ω σ)
        rw [← same] at leads ⊢
        exact ⟨_, course.step leads⟩
  · rintro ⟨entries, course⟩
    exact course.forget

end Negotiation

end Parley
