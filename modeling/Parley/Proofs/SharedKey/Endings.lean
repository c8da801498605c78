import Parley.Proofs.Lifecycle.Endings
import Parley.Proofs.SharedKey.Contract

/-!
How shared-key handlers end. While a handler is at work it knows its user and its key whenever its
step needs them; so it never answers that it has no identity, and what it answers it remembers.
-/

namespace Parley.SharedKey

open Lifecycle

variable {κ : Type} [KeyStore κ] {start handler next : SharedKey} {log : List Deed}
  {supplies now later : Supplies κ} {kind : ExchangeKind} {answer : Option Answer}

omit [KeyStore κ] in
theorem Standing.keyed (standing : Standing start handler log)
    (exchanging : handler.lifecycle.stage = .exchanging)
    (atStep : handler.step = .awaitChallenge ∨ handler.step = .awaitVerdict ∨
      handler.step = .awaitProof) :
    handler.key ≠ none ∧ handler.user ≠ none := by
  have known {role : Role} {terms : Terms} {key : SecretKey}
      (holds : Holds start role terms key handler.memory) :
      handler.key ≠ none ∧ handler.user ≠ none := by
    rw [holds.key_eq, holds.user_eq]
    exact ⟨Option.some_ne_none _, Option.some_ne_none _⟩
  rcases atStep with step | step | step <;>
    obtain ⟨role, _, progress⟩ := standing.underway_of_step exchanging step (by simp)
  · cases progress with
    | @greeted user key _ _ user_eq key_eq _ =>
        have sameUser : handler.user = some user := user_eq.1
        have sameKey : handler.key = some key := key_eq.1
        rw [sameUser, sameKey]
        exact ⟨Option.some_ne_none _, Option.some_ne_none _⟩
  · cases progress with
    | proved _ holds _ => exact known holds
  · cases progress with
    | challenged _ holds _ => exact known holds

omit [KeyStore κ] in
theorem Standing.identified_prepare (standing : Standing start handler log)
    (exchanging : handler.lifecycle.stage = .exchanging) (role : handler.lifecycle.role ≠ none)
    (supplies : Supplies κ) : (handler.prepare supplies).2.2 ≠ .ok .noIdentity := by
  rw [prepare]
  split
  · simp
  · split
    · rename_i noRole
      exact absurd noRole role
    · rename_i client step
      split
      · rename_i noUser
        obtain ⟨_, unsettled, progress⟩ := standing.underway_of_step exchanging step (by simp)
        cases progress with
        | opening _ user_eq _ => exact absurd (user_eq.1.symm.trans noUser) (by simp)
        | resting _ => exact absurd (unsettled.role.symm.trans client) (by simp)
      · rename_i user _
        simp only [sayHello]
        split
        · simp
        · rename_i own _ _
          rcases reply_cases { handler with clientNonce := own.bytes, step := .awaitChallenge }
            (.hello handler.protocol user own.bytes) .await with ⟨_, same⟩ | ⟨_, _, same⟩
          · rw [same]
            simp
          · rw [same]
            simp
    · simp
    · simp

omit [KeyStore κ] in
theorem Standing.identified_write (standing : Standing start handler log)
    (exchanging : handler.lifecycle.stage = .exchanging) (role : handler.lifecycle.role ≠ none)
    (blob : Blob) (supplies : Supplies κ) :
    (handler.write blob supplies).answer ≠ .ok .noIdentity := by
  have prepared := standing.identified_prepare exchanging role supplies
  rw [write]
  revert prepared
  rcases handler.prepare supplies with ⟨next, later, answer⟩
  intro prepared
  split
  · rename_i middle _ _
    have flushed := flush_flush middle blob
    dsimp only
    revert flushed
    generalize middle.flush blob = flushing
    rcases flushing with ⟨last, after, mode⟩
    intro flushed
    cases flushed with
    | partly _ => simp
    | wholly => cases middle.afterSend.getD .await <;> intro same <;> cases same
  · rename_i same
    cases same
    exact prepared

omit [KeyStore κ] in
theorem kept_nextMessage {message : Message}
    (found : handler.nextMessage = .ok (some (message, next))) :
    next.step = handler.step ∧ next.memory = handler.memory := by
  simp only [nextMessage] at found
  split at found
  · cases found
    exact ⟨rfl, rfl⟩
  · split at found <;> cases found
    exact ⟨rfl, rfl⟩

theorem Standing.identified_read (standing : Standing start handler log)
    (exchanging : handler.lifecycle.stage = .exchanging) (role : handler.lifecycle.role ≠ none)
    (blob : Blob) (supplies : Supplies κ) :
    (handler.read blob supplies).answer ≠ .ok .noIdentity := by
  have reading := reading_read handler blob supplies
  revert reading
  rcases handler.read blob supplies with ⟨answer, last, _, later⟩
  rintro reading rfl
  cases reading with
  | @handled message middle _ _ given _ found handled same =>
      obtain rfl : Except.ok .noIdentity = given := same.resolve_right (by simp)
      obtain ⟨stepEq, memoryEq⟩ := kept_nextMessage found
      have sameKey : middle.key = handler.key := congrArg Memory.key memoryEq
      have sameUser : middle.user = handler.user := congrArg Memory.user memoryEq
      have lifecycleEq := lifecycle_nextMessage found
      obtain ⟨_, response⟩ := response_onMessage middle supplies message
      rw [handled] at response
      cases response with
      | unbound noRole =>
          rw [lifecycleEq] at noRole
          exact role noRole
      | keyless step missing =>
          rw [stepEq] at step
          obtain ⟨keyed, named⟩ := standing.keyed exchanging step
          rw [sameKey, sameUser] at missing
          exact missing.elim keyed named

theorem Standing.identified_round (standing : Standing start handler log)
    (exchanging : handler.lifecycle.stage = .exchanging) (role : handler.lifecycle.role ≠ none)
    (supplies : Supplies κ) : (handler.round supplies).answer ≠ .ok .noIdentity := by
  rw [SharedKey.round]
  split
  · exact standing.identified_read exchanging role _ _
  · exact standing.identified_write exchanging role _ _

/-! ## Calls -/

omit [KeyStore κ] in
theorem Standing.letIn (standing : Standing start handler log)
    (still : handler.lifecycle.Open kind) : Standing start (handler.letIn kind) log :=
  standing.entered (.opened kind still.stage)

omit [KeyStore κ] in
theorem left_call {work : SharedKey → Blob → Supplies κ → Turn (Supplies κ) SharedKey}
    {blob : Blob} (still : handler.lifecycle.Open .blob)
    (worked : Worked (handler.letIn .blob).lifecycle
      (work (handler.letIn .blob) blob supplies).handler.lifecycle
      (work (handler.letIn .blob) blob supplies).answer)
    (identified : (work (handler.letIn .blob) blob supplies).answer ≠ .ok .noIdentity) :
    Left .blob handler.lifecycle (handler.call work blob supplies).handler.lifecycle
      (some (handler.call work blob supplies).answer) := by
  rw [call_of_open work blob supplies still]
  exact left_settle (handler.engaged_letIn .blob) rfl worked identified

theorem answer_of_silent {script after : Script}
    (silent : script.play (handler.carryOn supplies).dialogue = (none, after)) :
    (handler.round supplies).answer = .ok .needData := by
  have worked := worked_round handler supplies
  rw [carryOn_eq] at silent
  simp only [closeRound] at silent
  revert silent worked
  rcases (handler.round supplies).answer with fault | mode
  · intro worked silent
    cases silent
  · intro worked silent
    have obeyed (script : Script) (waits : script.play (({ (handler.round supplies).handler with
        desk := (handler.round supplies).blob } : SharedKey).obey mode) = (none, after)) :
        mode = .needData := by
      cases mode with
      | needData => rfl
      | noMoreData =>
          simp only [obey] at waits
          split at waits <;> cases waits
      | _ => cases waits
    dsimp only at silent
    split at silent
    · rw [Script.play_bind] at silent
      obtain ⟨sent, done⟩ := Frame.isSome_play_send (handler.round supplies).blob.contents script
      revert silent done
      generalize script.play (Frame.send (handler.round supplies).blob.contents) = outcome
      rcases outcome with ⟨_, later⟩
      rintro silent rfl
      rcases sent with fault | _
      · cases silent
      · exact congrArg _ (obeyed later silent)
    · exact congrArg _ (obeyed script silent)

theorem left_run {script : Script} {bound : Nat} {takeover : Takeover (Supplies κ) SharedKey}
    (standing : Standing start handler log) (still : handler.lifecycle.Open .takeover)
    (role : handler.lifecycle.role ≠ none)
    (ran : Takeover.run bound handler supplies script = some takeover) :
    Left .takeover handler.lifecycle takeover.handler.lifecycle takeover.answer := by
  have opening : Handler.takeOver handler supplies = handler.takeOver supplies := rfl
  rw [Takeover.run, opening, takeOver_of_enter still.enter] at ran
  cases bound with
  | zero => cases ran
  | succ bound =>
      simp only [Takeover.follow, Script.play] at ran
      -- Between its rounds the handler stands where its deeds have brought it, still engaged.
      refine Takeover.follow_induction
        (fun stretch _ => ∃ next now log, stretch = next.carryOn now ∧
          Standing start next log ∧ next.lifecycle.Engaged .takeover ∧
          next.lifecycle.role = handler.lifecycle.role)
        (fun takeover =>
          Left .takeover handler.lifecycle takeover.handler.lifecycle takeover.answer)
        ?_ ?_ ?_ ?_ ran
      · rintro _ script later ⟨next, now, log, rfl, _, engaged, same⟩ silent
        have worked := worked_round next now
        rw [answer_of_silent silent] at worked
        refine .going (by simp) (worked.role.trans same) ⟨Or.inr ?_, Or.inr ?_⟩
        · exact worked.exchange.trans engaged.exchange
        · exact (worked.kept_of_going rfl).1.trans engaged.stage
      · rintro _ script last answer later ⟨next, now, log, rfl, standing, engaged, same⟩ played
        have worked := worked_round next now
        have identified := standing.identified_round engaged.stage (by rwa [same]) now
        cases rounds_carryOn (Script.leads_of_play played) with
        | broken answered =>
            rw [answered] at worked
            exact left_settle engaged same worked (by simp)
        | worked answered outgrowth =>
            rw [answered] at worked identified
            cases outgrowth with
            | ended _ => exact left_settle engaged same worked identified
            | broken _ =>
                exact .ended rfl (repeats_finished rfl (worked.exchange.trans engaged.exchange))
      · rintro _ script last later ⟨next, now, log, rfl, standing, engaged, same⟩ played
        have leads := Script.leads_of_play played
        have act : Move κ ⟨next, true⟩ _ _ := .carryOn rfl leads
        have moved := (standing.move (fun _ => engaged.stage) act).1
        have worked := worked_round next now
        cases rounds_carryOn leads with
        | @worked mode _ _ answered outgrowth =>
            rw [answered] at worked
            cases outgrowth with
            | onward goes desk _ =>
                have going : mode.isFinal = false := by cases mode <;> first | rfl | cases goes
                refine ⟨_, _, _, rfl, moved, ⟨?_, ?_⟩, worked.role.trans same⟩
                · exact worked.exchange.trans engaged.exchange
                · exact (worked.kept_of_going going).1.trans engaged.stage
      · exact ⟨_, supplies, log, rfl, (standing.letIn still).dress _ _ _ _ _ rfl (Or.inl rfl)
          (Or.inl rfl), ⟨rfl, rfl⟩, rfl⟩

theorem left_visit (standing : Standing start handler log) (still : handler.lifecycle.Open kind)
    (role : handler.lifecycle.role ≠ none)
    (visit : Visit kind handler now answer next later) :
    Left kind handler.lifecycle next.lifecycle answer := by
  cases visit with
  | produce _ _ blob =>
      exact left_call still (writing_write _ blob now).worked
        ((standing.letIn still).identified_write rfl role blob now)
  | consume _ _ blob =>
      exact left_call still (reading_read _ blob now).worked
        ((standing.letIn still).identified_read rfl role blob now)
  | process ran => exact left_run standing still role ran

theorem inert_of_repeats {mode : Mode} (repeats : handler.lifecycle.Repeats kind mode) :
    Inert (Supplies κ) kind mode handler := by
  cases kind with
  | blob =>
      intro blob supplies
      have called (work : SharedKey → Blob → Supplies κ → Turn (Supplies κ) SharedKey) :
          handler.call work blob supplies = ⟨.ok mode, handler, blob, supplies⟩ := by
        rw [call, repeats]
      exact ⟨called write, called read⟩
  | takeover =>
      intro supplies
      have opening : Handler.takeOver handler supplies = handler.takeOver supplies := rfl
      rw [opening, takeOver, repeats]

theorem begun_initialises {variant : Variant} {supplies began : Supplies κ}
    (initialised : Initialises (fresh variant) supplies start began) : start.lifecycle.Begun := by
  rcases refused_or_primed initialised with refused | ⟨role, primed⟩
  · exact .refused refused.stage
  · exact .ready ⟨primed.stage, primed.exchange⟩ (by simp [primed.role])

theorem course_visits {variant : Variant} {supplies began : Supplies κ} {answers : List Answer}
    (initialised : Initialises (fresh variant) supplies start began)
    (visits : Visits kind start began answers handler now) :
    handler.lifecycle.Course kind answers := by
  refine Lifecycle.course_visits (fun _ _ => inert_of_repeats) ?_ (begun_initialises initialised)
    visits
  intro answers handler now answer next later before still role visit
  obtain ⟨_, history⟩ := before.history
  obtain ⟨log, life⟩ := life_history history
  exact left_visit ((standing_initialises initialised).life life).1 still role visit

end Parley.SharedKey
