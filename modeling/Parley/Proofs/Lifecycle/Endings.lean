import Parley.Proofs.Handler.Visits
import Parley.Proofs.Lifecycle.Contract

/-!
How lifecycles end. Calls of one kind leave a lifecycle open for more of them, or in an end that
every later call of the kind repeats.
-/

namespace Parley

def endMode? : Answer → Option Mode
  | .error _ => some .failed
  | .ok mode => if mode.isTerminal ∨ mode = .delegated then some mode else none

namespace Lifecycle

/-- Every call of the kind is answered with the mode and changes nothing. -/
def Repeats (kind : ExchangeKind) (mode : Mode) (lifecycle : Lifecycle) : Prop :=
  lifecycle.enter kind = (lifecycle, some (.ok mode))

variable {kind : ExchangeKind} {mode : Mode} {lifecycle before opened worked : Lifecycle}

theorem repeats_unbound (stage : lifecycle.stage = .unbound) (kind : ExchangeKind) :
    lifecycle.Repeats kind .noIdentity := by
  rw [Repeats, enter, stage]

theorem repeats_finished (stage : lifecycle.stage = .finished mode)
    (exchange : lifecycle.exchange = some kind) : lifecycle.Repeats kind mode := by
  rcases lifecycle with ⟨face, _, _⟩
  subst stage exchange
  simp [Repeats, enter]

inductive Left (kind : ExchangeKind) (before after : Lifecycle) : Option Answer → Prop
  | going {answer : Option Answer} (goes : ∀ given, answer = some given → endMode? given = none)
      (role : after.role = before.role) (still : after.Open kind) : Left kind before after answer
  | ended {answer : Answer} {mode : Mode} (ends : endMode? answer = some mode)
      (repeats : after.Repeats kind mode) : Left kind before after (some answer)

theorem endMode?_of_going (goes : mode.isFinal = false) (supported : mode ≠ .notSupported)
    (identified : mode ≠ .noIdentity) : endMode? (.ok mode) = none := by
  cases mode with
  | notSupported => exact absurd rfl supported
  | noIdentity => exact absurd rfl identified
  | success => cases goes
  | failed => cases goes
  | delegated => cases goes
  | _ => rfl

theorem endMode?_of_final (final : mode.isFinal = true) : endMode? (.ok mode) = some mode := by
  cases mode with
  | success => rfl
  | failed => rfl
  | delegated => rfl
  | _ => cases final

theorem left_settle {answer : Answer} (engaged : opened.Engaged kind)
    (role : opened.role = before.role) (work : Worked opened worked answer)
    (identified : answer ≠ .ok .noIdentity) :
    Left kind before (worked.settle answer) (some answer) := by
  have exchange : worked.exchange = some kind := work.exchange.trans engaged.exchange
  rcases work.leaves with ⟨goes, supported, _, stage, _⟩ | ⟨final, stage, _⟩ | ⟨_, _⟩
  · refine .going ?_ (work.role.trans role) ⟨Or.inr exchange, Or.inr (stage.trans engaged.stage)⟩
    rintro _ ⟨⟩
    exact endMode?_of_going goes supported fun noneNamed => identified (by rw [noneNamed])
  · exact .ended (endMode?_of_final final) (repeats_finished stage exchange)
  · exact .ended rfl (repeats_finished rfl exchange)

inductive Begun (lifecycle : Lifecycle) : Prop
  | refused (stage : lifecycle.stage = .unbound)
  | ready (ready : lifecycle.Ready) (role : lifecycle.role ≠ none)

theorem begun_refuse (lifecycle : Lifecycle) (reason : String) : (lifecycle.refuse reason).Begun :=
  .refused rfl

theorem begun_bind (unused : lifecycle.exchange = none) (identity : Option Identity)
    (role : Role) : (lifecycle.bind identity role).Begun :=
  .ready ⟨rfl, unused⟩ (by simp [Lifecycle.role, bind])

inductive Course (kind : ExchangeKind) (answers : List Answer) (lifecycle : Lifecycle) : Prop
  | going (goes : ∀ answer ∈ answers, endMode? answer = none) (role : lifecycle.role ≠ none)
      (still : lifecycle.Open kind) : Course kind answers lifecycle
  | ended {mode : Mode}
      (ends : ∀ answer ∈ answers, ∀ other, endMode? answer = some other → other = mode)
      (repeats : lifecycle.Repeats kind mode) : Course kind answers lifecycle

theorem Begun.course (begun : lifecycle.Begun) (kind : ExchangeKind) :
    lifecycle.Course kind [] := by
  cases begun with
  | refused stage => exact .ended nofun (repeats_unbound stage kind)
  | ready ready role => exact .going nofun role (ready.open kind)

theorem Course.repeats {answers : List Answer} (course : lifecycle.Course kind answers)
    {answer : Answer} (given : answer ∈ answers) (ends : endMode? answer = some mode) :
    lifecycle.Repeats kind mode := by
  cases course with
  | going goes _ _ => exact absurd ((goes answer given).symm.trans ends) (by simp)
  | ended same repeats =>
      obtain rfl := same answer given mode ends
      exact repeats

theorem Course.left {after : Lifecycle} {answers : List Answer} {answer : Option Answer}
    (goes : ∀ answer ∈ answers, endMode? answer = none) (role : before.role ≠ none)
    (left : before.Left kind after answer) : after.Course kind (answers ++ answer.toList) := by
  cases left with
  | going quiet kept still =>
      refine .going (List.forall_mem_append.mpr ⟨goes, ?_⟩) (by rwa [kept]) still
      exact fun given member => quiet given (Option.mem_toList.mp member)
  | @ended answer mode ends repeats =>
      refine .ended (List.forall_mem_append.mpr ⟨?_, ?_⟩) repeats
      · intro given member other ended
        exact absurd ((goes given member).symm.trans ended) (by simp)
      · intro given member other ended
        obtain rfl : given = answer := List.mem_singleton.mp member
        exact Option.some.inj (ended.symm.trans ends)

section

variable {ω σ : Type} [HasFace σ] [Handler ω σ] {of : σ → Lifecycle} {start : σ} {early : ω}

/--
The course of a lifecycle through any calls of a kind, for handlers that are inert as soon as their
lifecycle repeats itself.
-/
theorem course_visits {handler : σ} {now : ω} {answers : List Answer}
    (inert : ∀ handler mode, (of handler).Repeats kind mode → Inert ω kind mode handler)
    (left : ∀ {answers handler now answer next later},
      Visits kind start early answers handler now → (of handler).Open kind →
      (of handler).role ≠ none → Visit (ω := ω) kind handler now answer next later →
      (of handler).Left kind (of next) answer)
    (begun : (of start).Begun) (visits : Visits kind start early answers handler now) :
    (of handler).Course kind answers := by
  induction visits with
  | begin => exact begun.course kind
  | elsewhere _ _ ih => exact ih
  | visit before visit ih =>
      cases ih with
      | going goes role still => exact .left goes role (left before still role visit)
      | @ended mode ends repeats =>
          obtain ⟨rfl, _, rfl⟩ := (inert _ _ repeats).visit visit
          refine .ended (List.forall_mem_append.mpr ⟨ends, ?_⟩) repeats
          intro given member other ended
          obtain rfl : given = .ok mode := List.mem_singleton.mp member
          simp only [endMode?] at ended
          split at ended
          · exact (Option.some.inj ended).symm
          · cases ended

end

end Lifecycle

end Parley
