import Parley.BuiltIn
import Parley.Proofs.Envelope.Calls
import Parley.Proofs.Handler.Sum
import Parley.Proofs.SharedKey.Calls

/-!
Credentials of the built-in handlers. A handler shows a credential once it has answered with
success, and hides it for good when a later call mixes the two ways of exchanging data. The refused
call changes nothing else, so that calls after it are still answered with success.
-/

namespace Parley

/-- Whether an answer is a terminal result, a terminal mode or a fault. -/
def isTerminalAnswer : Answer → Bool
  | .ok mode => mode.isTerminal
  | .error _ => true

def latestTerminal (answers : List Answer) : Option Answer :=
  (answers.filter isTerminalAnswer).getLast?

/-- Whether some call after a success was refused because it mixed the ways of exchanging data. -/
def MixedAfterSuccess (answers : List Answer) : Prop :=
  ∃ early late protocol, answers = early ++ .ok .success :: late ∧
    .error (.mixedExchange protocol) ∈ late

/-- How a lifecycle and its credential go with the answers so far. -/
inductive Credited : List Answer → Lifecycle → Prop
  | never {answers : List Answer} {lifecycle : Lifecycle}
      (unsuccessful : .ok .success ∉ answers) (stage : lifecycle.stage ≠ .finished .success)
      (credential : lifecycle.face.credential = none) : Credited answers lifecycle
  | once {early late : List Answer} {lifecycle : Lifecycle} (first : .ok .success ∉ early)
      (stage : lifecycle.stage = .finished .success)
      (afterwards : ∀ answer ∈ late,
        answer = .ok .success ∨ ∃ protocol, answer = .error (.mixedExchange protocol))
      (credential : lifecycle.face.credential.isSome ↔
        ∀ protocol, .error (.mixedExchange protocol) ∉ late) :
      Credited (early ++ .ok .success :: late) lifecycle

theorem Credited.called {answers : List Answer} {answer : Option Answer}
    {before after : Lifecycle} (credited : Credited answers before)
    (called : before.Called after answer) : Credited (answers ++ answer.toList) after := by
  cases credited with
  | never unsuccessful stage credential =>
      have still {other : Option Answer} (different : other ≠ some (.ok .success)) :
          .ok .success ∉ answers ++ other.toList := by
        intro member
        rcases List.mem_append.mp member with old | new
        · exact unsuccessful old
        · exact different (Option.mem_toList.mp new)
      cases called with
      | answered entry =>
          cases entry with
          | unbound => exact .never (still (by simp)) stage credential
          | mixed face hidden => exact .never (still (by simp)) stage (by rw [hidden])
          | repeated kind finished =>
              refine .never (still ?_) stage credential
              rintro same
              cases same
              exact stage finished
      | pending entry unfinished going same =>
          exact .never (still unfinished) (by simp [going]) (same.trans credential)
      | @ended _ mode entry finished shown =>
          by_cases success : mode = .success
          · subst success
            exact .once unsuccessful finished (by simp) (by simpa using shown)
          · refine .never (still (by simpa using success)) (by simpa [finished] using success) ?_
            simpa [success] using shown
      | broken entry finished shown => exact .never (still (by simp)) (by simp [finished]) shown
  | @once early late _ first stage afterwards credential =>
      have ended {opened : Lifecycle} (entry : before.Entry opened none) : False := by
        cases entry with
        | opened kind openStage => rcases openStage with bound | going <;> simp_all
      have longer (other : Answer) : (early ++ .ok .success :: late) ++ (some other).toList =
          early ++ .ok .success :: (late ++ [other]) := by simp
      cases called with
      | answered entry =>
          rw [longer]
          cases entry with
          | unbound unbound => simp [stage] at unbound
          | mixed face hidden =>
              refine .once first stage ?_ ?_
              · intro answer member
                rcases List.mem_append.mp member with old | new
                · exact afterwards answer old
                · exact Or.inr ⟨_, by simpa using new⟩
              · constructor
                · intro shown
                  simp [hidden] at shown
                · intro unmixed
                  exact absurd (List.mem_append_right _ List.mem_cons_self) (unmixed _)
          | @repeated mode kind finished =>
              obtain rfl : Mode.success = mode := by simpa [stage] using finished
              refine .once first stage ?_ ?_
              · intro answer member
                rcases List.mem_append.mp member with old | new
                · exact afterwards answer old
                · exact Or.inl (by simpa using new)
              · simpa using credential
      | pending entry => exact (ended entry).elim
      | ended entry => exact (ended entry).elim
      | broken entry => exact (ended entry).elim

theorem not_mixed_of_never {answers : List Answer} (unsuccessful : .ok .success ∉ answers) :
    latestTerminal answers ≠ some (.ok .success) := by
  intro latest
  exact unsuccessful (List.mem_filter.mp (List.mem_of_getLast? latest)).1

theorem latestTerminal_once {early late : List Answer}
    (afterwards : ∀ answer ∈ late,
      answer = .ok .success ∨ ∃ protocol, answer = .error (.mixedExchange protocol)) :
    latestTerminal (early ++ .ok .success :: late) = (.ok .success :: late).getLast? := by
  have terminal : ∀ answer ∈ (.ok .success : Answer) :: late, isTerminalAnswer answer = true := by
    intro answer member
    rcases List.mem_cons.mp member with rfl | later
    · rfl
    · rcases afterwards answer later with rfl | ⟨protocol, rfl⟩ <;> rfl
  rw [latestTerminal, List.filter_append, List.filter_eq_self.mpr terminal, List.getLast?_append]
  simp [List.getLast?_cons]

theorem mixedAfterSuccess_once {early late : List Answer} (first : .ok .success ∉ early) :
    MixedAfterSuccess (early ++ .ok .success :: late) ↔
      ∃ protocol, .error (.mixedExchange protocol) ∈ late := by
  constructor
  · rintro ⟨before, after, protocol, same, member⟩
    refine ⟨protocol, ?_⟩
    rcases List.append_eq_append_iff.mp same with ⟨more, rfl, rest⟩ | ⟨more, rfl, rest⟩
    · cases more with
      | nil =>
          obtain ⟨_, rfl⟩ := List.cons.inj rest
          exact member
      | cons answer more =>
          obtain ⟨rfl, rfl⟩ := List.cons.inj rest
          exact List.mem_append_right _ (List.mem_cons_of_mem _ member)
    · cases more with
      | nil =>
          obtain ⟨_, rfl⟩ := List.cons.inj rest
          exact member
      | cons answer more =>
          obtain ⟨rfl, _⟩ := List.cons.inj rest
          exact absurd (List.mem_append_right _ List.mem_cons_self) first
  · rintro ⟨protocol, member⟩
    exact ⟨early, late, protocol, rfl, member⟩

theorem Credited.isSome_iff {answers : List Answer} {lifecycle : Lifecycle}
    (credited : Credited answers lifecycle) :
    lifecycle.face.credential.isSome ↔
      latestTerminal answers = some (.ok .success) ∧ ¬ MixedAfterSuccess answers := by
  cases credited with
  | never unsuccessful _ credential =>
      simp [credential, not_mixed_of_never unsuccessful]
  | @once early late _ first _ afterwards credential =>
      rw [credential, latestTerminal_once afterwards, mixedAfterSuccess_once first, not_exists]
      constructor
      · intro unmixed
        refine ⟨?_, unmixed⟩
        rw [List.getLast?_eq_some_getLast (List.cons_ne_nil _ _)]
        rcases List.mem_cons.mp (List.getLast_mem (List.cons_ne_nil (.ok .success) late)) with
          last | later
        · rw [last]
        · rcases afterwards _ later with last | ⟨protocol, last⟩
          · rw [last]
          · exact absurd (last ▸ later) (unmixed protocol)
      · rintro ⟨_, unmixed⟩
        exact unmixed

namespace BuiltIn

def lifecycle : BuiltIn → Lifecycle
  | .inl handler => handler.lifecycle
  | .inr handler => handler.lifecycle

theorem face_lifecycle (handler : BuiltIn) : handler.lifecycle.face = face handler := by
  cases handler <;> rfl

variable {κ : Type} [KeyStore κ]

theorem called_contact {handler next : BuiltIn} {supplies later : Supplies κ} {taken : Bytes}
    {answer : Option Answer} (contact : Contact handler supplies taken answer next later) :
    handler.lifecycle.Called next.lifecycle answer := by
  cases handler with
  | inl handler =>
      obtain ⟨inner, rfl, own⟩ := Handler.carries_inl.contact contact
      exact SharedKey.called_contact own
  | inr handler =>
      obtain ⟨inner, rfl, own⟩ := Handler.carries_inr.contact contact
      exact Envelope.called_contact own

theorem credited_initialises {handler start : BuiltIn} {supplies now : Supplies κ}
    (initialised : Initialises handler supplies start now) : Credited [] start.lifecycle := by
  have unstarted {start : BuiltIn} (unstarted : start.lifecycle.Unstarted) :
      Credited [] start.lifecycle :=
    .never (by simp) unstarted.stage_ne unstarted.credential
  cases initialised with
  | live identity role =>
      cases handler with
      | inl handler => exact unstarted (SharedKey.unstarted_init handler identity role supplies)
      | inr handler => exact unstarted (Envelope.initial_init handler identity role supplies).unstarted
  | declared attributes =>
      cases handler with
      | inl handler => exact unstarted (SharedKey.unstarted_initFrom handler attributes supplies)
      | inr handler => exact unstarted (Envelope.initial_initFrom handler attributes supplies).unstarted

theorem credited_history {handler start last : BuiltIn} {supplies now later : Supplies κ}
    {taken : Bytes} {answers : List Answer}
    (initialised : Initialises handler supplies start now)
    (history : History start now taken answers last later) : Credited answers last.lifecycle := by
  induction history with
  | begin => exact credited_initialises initialised
  | contact _ contact ih => exact ih.called (called_contact contact)
  | elsewhere _ _ ih => exact ih

/--
After any calls of an initialised handler its credential shows if and only if its latest terminal
result is success and no call since a success was refused for mixing the ways of exchanging data.
-/
theorem credential_isSome_iff {handler start last : BuiltIn} {supplies now later : Supplies κ}
    {taken : Bytes} {answers : List Answer}
    (initialised : Initialises handler supplies start now)
    (history : History start now taken answers last later) :
    (face last).credential.isSome ↔
      latestTerminal answers = some (.ok .success) ∧ ¬ MixedAfterSuccess answers := by
  rw [← face_lifecycle]
  exact (credited_history initialised history).isSome_iff

theorem history_mixed {handler : SharedKey} (stage : handler.lifecycle.stage = .finished .success)
    (exchange : handler.lifecycle.exchange = some .blob) {start : BuiltIn}
    {now supplies : Supplies κ} {taken : Bytes} {answers : List Answer}
    (history : History start now taken answers (.inl handler) supplies) :
    ∃ taken last, History start now taken
      (answers ++ [.error (.mixedExchange handler.lifecycle.face.protocol), .ok .success])
      last supplies ∧ (face last).credential = none := by
  let hidden : Lifecycle :=
    { handler.lifecycle with face := { handler.lifecycle.face with credential := none } }
  have refused : handler.lifecycle.enter .takeover =
      (hidden, some (.error (.mixedExchange handler.lifecycle.face.protocol))) := by
    simp [Lifecycle.enter, stage, exchange, hidden]
  have repeated : hidden.enter .blob = (hidden, some (.ok .success)) := by
    simp [Lifecycle.enter, stage, exchange, hidden]
  have mixed : Takeover.run 1 (.inl handler : BuiltIn) supplies {} =
      some ⟨some (.error (.mixedExchange handler.lifecycle.face.protocol)),
        .inl { handler with lifecycle := hidden }, supplies, {}⟩ := by
    simp only [Takeover.run, Handler.takeOver, SharedKey.takeOver, refused, Handler.mapStretch,
      Dialogue.bind, Takeover.follow, Script.play]
  have again : Handler.produce (.inl { handler with lifecycle := hidden } : BuiltIn)
      (Blob.blank 0) supplies =
      ⟨.ok .success, .inl { handler with lifecycle := hidden }, Blob.blank 0, supplies⟩ := by
    simp only [Handler.produce, SharedKey.call, repeated, Handler.mapTurn]
  have longer := (history.contact (.process mixed)).contact (.produce _ _ (Blob.blank 0))
  rw [again, List.append_assoc answers] at longer
  exact ⟨_, .inl { handler with lifecycle := hidden }, longer, rfl⟩

def alice : Initialised (Supplies MemoryKeys) BuiltIn :=
  Handler.init (sharedKey .p9sk2) (some ⟨"alice", "p9sk2"⟩) .client
    ⟨.counting, MemoryKeys.insert {} "alice" ⟨[1, 2, 3]⟩⟩

def aliceAccepted : List Answer × BuiltIn × Supplies MemoryKeys :=
  correspond takeoverCapacity alice.handler alice.surroundings
    [none, some (.challenge "styx" (Nonce.repeated 2).bytes none), none, some (.verdict true "")]

set_option maxRecDepth 10000 in
theorem aliceAccepted_eq :
    (aliceAccepted.2.1.lifecycle.stage, aliceAccepted.2.1.lifecycle.exchange,
      aliceAccepted.2.1.isLeft, aliceAccepted.1.map Except.toOption) =
      (.finished .success, some .blob, true,
        [some .needData, some .pendingData, some .needData, some .success]) := by
  decide +kernel

theorem history_aliceAccepted :
    ∃ taken, History alice.handler alice.surroundings taken aliceAccepted.1 aliceAccepted.2.1
      aliceAccepted.2.2 :=
  history_correspond .begin takeoverCapacity
    [none, some (.challenge "styx" (Nonce.repeated 2).bytes none), none, some (.verdict true "")]

theorem credential_isSome_alice :
    ∃ taken, History alice.handler alice.surroundings taken aliceAccepted.1 aliceAccepted.2.1
        aliceAccepted.2.2 ∧
      ((face aliceAccepted.2.1).credential.isSome ↔
        latestTerminal aliceAccepted.1 = some (.ok .success) ∧
          ¬ MixedAfterSuccess aliceAccepted.1) := by
  obtain ⟨taken, history⟩ := history_aliceAccepted
  exact ⟨taken, history, credential_isSome_iff (.live _ _) history⟩

/-- After an attempt at a takeover the client is still answered with success. -/
theorem success_without_credential :
    ∃ taken answers last later,
      History alice.handler alice.surroundings taken answers last later ∧
        answers.getLast? = some (.ok .success) ∧ latestTerminal answers = some (.ok .success) ∧
          (face last).credential = none := by
  obtain ⟨taken, history⟩ := history_aliceAccepted
  have ends := aliceAccepted_eq
  revert history ends
  generalize aliceAccepted = accepted
  rcases accepted with ⟨answers, handler | handler, supplies⟩
  · intro history ends
    simp only [Prod.mk.injEq] at ends
    obtain ⟨longer, last, mixed, credential⟩ := history_mixed ends.1 ends.2.1 history
    refine ⟨longer, _, last, supplies, mixed, by simp, ?_, credential⟩
    simp [latestTerminal, List.filter_append, isTerminalAnswer, Mode.isTerminal]
  · intro _ ends
    simp at ends

end BuiltIn

end Parley
