import Parley.Proofs.Handler.Sum

/-!
Calls of one kind only, and inert handlers: whatever such a handler is called with, it answers
with one mode and leaves everything as it is.
-/

namespace Parley

open Handler

section

variable {ω σ : Type} [HasFace σ] [Handler ω σ]

inductive Visit : ExchangeKind → σ → ω → Option Answer → σ → ω → Prop
  | produce (handler : σ) (surroundings : ω) (blob : Blob) :
      Visit .blob handler surroundings (some (Handler.produce handler blob surroundings).answer)
        (Handler.produce handler blob surroundings).handler
        (Handler.produce handler blob surroundings).surroundings
  | consume (handler : σ) (surroundings : ω) (blob : Blob) :
      Visit .blob handler surroundings (some (Handler.consume handler blob surroundings).answer)
        (Handler.consume handler blob surroundings).handler
        (Handler.consume handler blob surroundings).surroundings
  | process {handler : σ} {surroundings : ω} {script : Script} {bound : Nat}
      {takeover : Takeover ω σ}
      (ran : Takeover.run bound handler surroundings script = some takeover) :
      Visit .takeover handler surroundings takeover.answer takeover.handler takeover.surroundings

/-- Any number of calls of a kind. Others may change the surroundings in between. -/
inductive Visits (kind : ExchangeKind) (start : σ) (early : ω) : List Answer → σ → ω → Prop
  | begin : Visits kind start early [] start early
  | visit {answers : List Answer} {answer : Option Answer} {handler next : σ} {now later : ω}
      (visits : Visits kind start early answers handler now)
      (visit : Visit kind handler now answer next later) :
      Visits kind start early (answers ++ answer.toList) next later
  | elsewhere {answers : List Answer} {handler : σ} {now : ω} (later : ω)
      (visits : Visits kind start early answers handler now) :
      Visits kind start early answers handler later

theorem Visit.contact {kind : ExchangeKind} {handler next : σ} {now later : ω}
    {answer : Option Answer} (visit : Visit kind handler now answer next later) :
    ∃ taken, Contact handler now taken answer next later := by
  cases visit with
  | produce _ _ blob => exact ⟨_, .produce handler now blob⟩
  | consume _ _ blob => exact ⟨_, .consume handler now blob⟩
  | process ran => exact ⟨_, .process ran⟩

theorem Contact.visit {handler next : σ} {now later : ω} {taken : Bytes}
    {answer : Option Answer} (contact : Contact handler now taken answer next later) :
    ∃ kind, Visit kind handler now answer next later := by
  cases contact with
  | produce blob => exact ⟨.blob, .produce handler now blob⟩
  | consume blob => exact ⟨.blob, .consume handler now blob⟩
  | process ran => exact ⟨.takeover, .process ran⟩

theorem Visits.history {kind : ExchangeKind} {start handler : σ} {early now : ω}
    {answers : List Answer} (visits : Visits kind start early answers handler now) :
    ∃ taken, History start early taken answers handler now := by
  induction visits with
  | begin => exact ⟨[], .begin⟩
  | visit _ visit ih =>
      obtain ⟨taken, history⟩ := ih
      obtain ⟨more, contact⟩ := visit.contact
      exact ⟨taken ++ more, history.contact contact⟩
  | elsewhere later _ ih =>
      obtain ⟨taken, history⟩ := ih
      exact ⟨taken, history.elsewhere later⟩

end

section

variable (ω : Type) {σ : Type} [HasFace σ] [Handler ω σ]

/--
A handler that has come to rest in a mode. Each call of the kind is answered with it and leaves the
handler, the blob and the surroundings as they are; a takeover is over before it has said or heard
anything.
-/
def Inert (kind : ExchangeKind) (mode : Mode) (handler : σ) : Prop :=
  match kind with
  | .blob => ∀ (blob : Blob) (surroundings : ω),
      Handler.produce handler blob surroundings = ⟨.ok mode, handler, blob, surroundings⟩ ∧
        Handler.consume handler blob surroundings = ⟨.ok mode, handler, blob, surroundings⟩
  | .takeover => ∀ surroundings : ω,
      Handler.takeOver handler surroundings =
        ⟨handler, surroundings, .done (handler, some (.ok mode))⟩

variable {ω} {kind : ExchangeKind} {mode : Mode} {handler next : σ} {now later : ω}

theorem Inert.run (inert : Inert ω .takeover mode handler) (bound : Nat) (script : Script) :
    Takeover.run (bound + 1) handler now script =
      some ⟨some (.ok mode), handler, now, script⟩ := by
  have opening := inert now
  rw [Takeover.run, opening]
  rfl

theorem Inert.visit (inert : Inert ω kind mode handler) {answer : Option Answer}
    (visit : Visit kind handler now answer next later) :
    next = handler ∧ later = now ∧ answer = some (.ok mode) := by
  cases visit with
  | produce _ _ blob =>
      rw [(inert blob now).1]
      exact ⟨rfl, rfl, rfl⟩
  | consume _ _ blob =>
      rw [(inert blob now).2]
      exact ⟨rfl, rfl, rfl⟩
  | @process _ _ script bound _ ran =>
      cases bound with
      | zero => cases ran
      | succ bound =>
          cases (inert.run bound script).symm.trans ran
          exact ⟨rfl, rfl, rfl⟩

theorem Inert.visits (inert : Inert ω kind mode handler) {answers : List Answer} {last : σ}
    (visits : Visits kind handler now answers last later) :
    last = handler ∧ ∀ answer ∈ answers, answer = .ok mode := by
  induction visits with
  | begin => exact ⟨rfl, nofun⟩
  | elsewhere _ _ ih => exact ih
  | visit _ visit ih =>
      obtain ⟨rfl, same⟩ := ih
      obtain ⟨rfl, rfl, rfl⟩ := inert.visit visit
      exact ⟨rfl, List.forall_mem_append.mpr ⟨same, fun _ => List.mem_singleton.mp⟩⟩

theorem Inert.history (inert : ∀ kind, Inert ω kind mode handler) {taken : Bytes}
    {answers : List Answer} {last : σ} (history : History handler now taken answers last later) :
    last = handler ∧ ∀ answer ∈ answers, answer = .ok mode := by
  induction history with
  | begin => exact ⟨rfl, nofun⟩
  | elsewhere _ _ ih => exact ih
  | contact _ contact ih =>
      obtain ⟨rfl, same⟩ := ih
      obtain ⟨kind, visit⟩ := contact.visit
      obtain ⟨rfl, rfl, rfl⟩ := (inert kind).visit visit
      exact ⟨rfl, List.forall_mem_append.mpr ⟨same, fun _ => List.mem_singleton.mp⟩⟩

end

namespace Handler

variable {ω σ τ : Type} [HasFace σ] [HasFace τ] [Handler ω σ] [Handler ω τ] {inject : σ → τ}

theorem Carries.visit (carries : Carries ω inject) {kind : ExchangeKind} {handler : σ} {next : τ}
    {now later : ω} {answer : Option Answer}
    (visit : Visit kind (inject handler) now answer next later) :
    ∃ inner, next = inject inner ∧ Visit kind handler now answer inner later := by
  cases visit with
  | produce _ _ blob =>
      rw [carries.produce]
      exact ⟨_, rfl, .produce handler now blob⟩
  | consume _ _ blob =>
      rw [carries.consume]
      exact ⟨_, rfl, .consume handler now blob⟩
  | process ran =>
      rw [Takeover.run, carries.takeOver, carries.follow] at ran
      obtain ⟨inner, followed, rfl⟩ := Option.map_eq_some_iff.mp ran
      exact ⟨_, rfl, .process followed⟩

theorem Carries.visits (carries : Carries ω inject) {kind : ExchangeKind} {start : σ} {last : τ}
    {early late : ω} {answers : List Answer}
    (visits : Visits kind (inject start) early answers last late) :
    ∃ inner, last = inject inner ∧ Visits kind start early answers inner late := by
  induction visits with
  | begin => exact ⟨start, rfl, .begin⟩
  | elsewhere later _ ih =>
      obtain ⟨inner, rfl, visits⟩ := ih
      exact ⟨inner, rfl, visits.elsewhere later⟩
  | visit _ visit ih =>
      obtain ⟨inner, rfl, visits⟩ := ih
      obtain ⟨next, rfl, own⟩ := carries.visit visit
      exact ⟨next, rfl, visits.visit own⟩

theorem Carries.inert (carries : Carries ω inject) {kind : ExchangeKind} {mode : Mode}
    {handler : σ} (inert : Inert ω kind mode handler) : Inert ω kind mode (inject handler) := by
  cases kind with
  | blob =>
      intro blob surroundings
      obtain ⟨produced, consumed⟩ := inert blob surroundings
      rw [carries.produce, carries.consume, produced, consumed]
      exact ⟨rfl, rfl⟩
  | takeover =>
      intro surroundings
      have opening := inert surroundings
      rw [carries.takeOver, opening]
      rfl

end Handler

end Parley
