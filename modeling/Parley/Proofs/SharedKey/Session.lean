import Parley.Proofs.Handler.History
import Parley.Proofs.SharedKey.Work

/-!
The calls of shared-key handlers. A call that is let in is a row of writes and reads: a call on a
blob makes one of them, and a takeover makes them until one does not let it go on.
-/

namespace Parley.SharedKey

open Lifecycle

variable {κ : Type} [KeyStore κ]

inductive Effort (handler : SharedKey) (supplies : Supplies κ) :
    Bytes → Answer → SharedKey → Supplies κ → Prop
  | write (blob : Blob) :
      Effort handler supplies [] (handler.write blob supplies).answer
        (handler.write blob supplies).handler (handler.write blob supplies).surroundings
  | read (blob : Blob) :
      Effort handler supplies (blob.contents.drop blob.position)
        (handler.read blob supplies).answer (handler.read blob supplies).handler
        (handler.read blob supplies).surroundings

/-- Writes and reads after which a takeover goes on, and what it does with its blob meanwhile. -/
inductive Session (opened : SharedKey) (began : Supplies κ) :
    Bytes → SharedKey → Supplies κ → Prop
  | opened : Session opened began [] opened began
  | effort {taken more : Bytes} {mode : Mode} {handler next : SharedKey}
      {now later : Supplies κ} (session : Session opened began taken handler now)
      (effort : Effort handler now more (.ok mode) next later) (goes : mode.goesOn = true) :
      Session opened began (taken ++ more) next later
  | desk {taken : Bytes} {handler : SharedKey} {now : Supplies κ} (desk : Blob)
      (consuming : Bool) (session : Session opened began taken handler now) :
      Session opened began taken { handler with desk, consuming } now

/-- A whole call: the bytes that it takes in and its answer, and what it leaves. -/
inductive Closing (handler : SharedKey) (supplies : Supplies κ) :
    Bytes → Option Answer → SharedKey → Supplies κ → Prop
  | answered {kind : ExchangeKind} {lifecycle : Lifecycle} {answer : Answer}
      (entered : handler.lifecycle.enter kind = (lifecycle, some answer)) :
      Closing handler supplies [] (some answer) { handler with lifecycle } supplies
  | hung {kind : ExchangeKind} {lifecycle : Lifecycle} {taken : Bytes} {next : SharedKey}
      {later : Supplies κ} (entered : handler.lifecycle.enter kind = (lifecycle, none))
      (session : Session { handler with lifecycle } supplies taken next later) :
      Closing handler supplies taken none next later
  | ended {kind : ExchangeKind} {lifecycle : Lifecycle} {taken more : Bytes}
      {next last : SharedKey} {now later : Supplies κ} {work answer : Answer}
      (entered : handler.lifecycle.enter kind = (lifecycle, none))
      (session : Session { handler with lifecycle } supplies taken next now)
      (effort : Effort next now more work last later)
      (same : answer = work ∨ ∃ fault, answer = .error fault) (desk : Blob) (consuming : Bool) :
      Closing handler supplies (taken ++ more) (some answer)
        ({ last with desk, consuming }.settle answer) later

theorem Effort.worked {handler next : SharedKey} {supplies later : Supplies κ} {taken : Bytes}
    {answer : Answer} (effort : Effort handler supplies taken answer next later) :
    Worked handler.lifecycle next.lifecycle answer := by
  cases effort with
  | write blob => exact (writing_write handler blob supplies).worked
  | read blob => exact (reading_read handler blob supplies).worked

theorem Session.kept {opened handler : SharedKey} {began now : Supplies κ} {taken : Bytes}
    (session : Session opened began taken handler now) :
    handler.lifecycle.role = opened.lifecycle.role ∧
      handler.lifecycle.stage = opened.lifecycle.stage ∧
      handler.lifecycle.face.credential = opened.lifecycle.face.credential := by
  induction session with
  | opened => exact ⟨rfl, rfl, rfl⟩
  | @effort _ _ mode _ _ _ _ _ effort goes ih =>
      have worked := effort.worked
      have going : mode.isFinal = false := by
        cases mode <;> first | rfl | cases goes
      obtain ⟨stage, credential⟩ := worked.kept_of_going going
      exact ⟨worked.role.trans ih.1, stage.trans ih.2.1, credential.trans ih.2.2⟩
  | desk _ _ _ ih => exact ih

def inHand (handler : SharedKey) : Bytes :=
  if handler.consuming then handler.desk.contents.drop handler.desk.position else []

omit [KeyStore κ] in
theorem Writing.consuming {handler next : SharedKey} {supplies later : Supplies κ} {mode : Mode}
    (writing : Writing handler supplies next later (.ok mode)) :
    next.consuming = handler.consuming := by
  cases writing with
  | unready prepared _ => cases prepared <;> rfl
  | flushed prepared flushed => cases flushed <;> cases prepared <;> rfl

theorem blob_read (handler : SharedKey) (blob : Blob) (supplies : Supplies κ) :
    (handler.read blob supplies).blob = (handler.inbox.absorb blob).2 := by
  simp only [read]
  split <;> rfl

omit [KeyStore κ] in
theorem inHand_load (handler : SharedKey) {frame : Bytes}
    (fits : frame.length ≤ handler.desk.capacity) :
    inHand { handler with desk := handler.desk.load frame, consuming := true } = frame := by
  simp only [inHand, if_true, Blob.contents_load, List.take_of_length_le fits]
  rfl

section

variable {handler : SharedKey} {supplies : Supplies κ} {script : Script} {lifecycle : Lifecycle}

/-- What may come of a stretch of a takeover that the lifecycle has let in. -/
def Continues (handler : SharedKey) (supplies : Supplies κ) (script : Script)
    (lifecycle : Lifecycle) (standing : SharedKey) (later : Supplies κ) :
    Option (SharedKey × Option Answer) × Script → Prop
  | (none, after) =>
      Closing handler supplies (Frame.payloads (script.given after)).flatten none standing later
  | (some (next, some answer), after) =>
      Closing handler supplies (Frame.payloads (script.given after)).flatten (some answer) next
        later
  | (some (next, none), after) =>
      ∃ taken, Session { handler with lifecycle } supplies taken next later ∧
        Frame.Accounts script after (taken ++ next.inHand)

variable {taken more : Bytes} {next last : SharedKey} {now later : Supplies κ} {mode : Mode}

theorem continues_end {after middle : Script} {part : Bytes} {answer : Answer}
    {standing : SharedKey} (entered : handler.lifecycle.enter .takeover = (lifecycle, none))
    (session : Session { handler with lifecycle } supplies taken next now)
    (effort : Effort next now more (.ok mode) last later)
    (same : answer = .ok mode ∨ ∃ fault, answer = .error fault) (desk : Blob)
    (accounts : Frame.Accounts script middle (taken ++ more))
    (noneWhole : Frame.payloads part = [])
    (lost : Script.supply middle.reads = part ++ Script.supply after.reads) :
    Continues handler supplies script lifecycle standing later
      (after.play (({ last with desk } : SharedKey).finishTakeover answer)) := by
  have closing := Closing.ended entered session effort same desk last.consuming
  simp only [finishTakeover, Script.play, Continues, accounts.close noneWhole lost]
  exact closing

theorem continues_obey (entered : handler.lifecycle.enter .takeover = (lifecycle, none))
    (session : Session { handler with lifecycle } supplies taken next now)
    (effort : Effort next now more (.ok mode) last later) (desk : Blob)
    (left : inHand { last with desk } = [] ∨ mode ≠ .continue) {middle : Script}
    (accounts : Frame.Accounts script middle (taken ++ more)) :
    Continues handler supplies script lifecycle { last with desk } later
      (middle.play (({ last with desk } : SharedKey).obey mode)) := by
  have ending {mode' : Mode} (same : mode' = mode) :
      Continues handler supplies script lifecycle { last with desk } later
        (middle.play (({ last with desk } : SharedKey).finishTakeover (.ok mode'))) :=
    continues_end entered session effort (Or.inl (congrArg _ same)) desk accounts
      Frame.payloads_nil rfl
  cases mode with
  | needData =>
      have carried := session.effort effort rfl
      simp only [obey, Script.play_bind]
      have received := Frame.received_play desk.capacity middle
      revert received
      generalize middle.play (Frame.receive desk.capacity) = outcome
      rcases outcome with ⟨_ | fault | frame, after⟩
      · rintro ⟨part, noneWhole, lost⟩
        simp only [Continues, accounts.close noneWhole lost]
        exact .hung entered (carried.desk desk last.consuming)
      · rintro ⟨part, noneWhole, lost⟩
        exact continues_end entered session effort (Or.inr ⟨fault, rfl⟩) desk accounts
          noneWhole lost
      · rintro ⟨fits, header, sized, stated, lost⟩
        have loaded := carried.desk (desk.load frame) true
        refine ⟨taken ++ more, loaded, ?_⟩
        rw [inHand_load { last with desk } fits]
        exact accounts.received sized stated lost
  | pendingData =>
      have carried := session.effort effort rfl
      have turned := carried.desk desk false
      refine ⟨taken ++ more, turned, ?_⟩
      simpa [inHand] using accounts
  | «continue» =>
      have carried := session.effort effort rfl
      have again := carried.desk desk last.consuming
      refine ⟨taken ++ more, again, ?_⟩
      rcases left with left | other
      · simpa [left] using accounts
      · exact absurd rfl other
  | noMoreData =>
      rcases effort.worked.leaves with ⟨_, _, more, _, _⟩ | ⟨final, _, _⟩
      · exact absurd rfl more
      · cases final
  | noIdentity => exact ending rfl
  | notSupported => exact ending rfl
  | failed => exact ending rfl
  | success => exact ending rfl
  | wait seconds => exact ending rfl
  | delegated => exact ending rfl

theorem continues_carryOn (entered : handler.lifecycle.enter .takeover = (lifecycle, none))
    (session : Session { handler with lifecycle } supplies taken next now) {middle : Script}
    (accounts : Frame.Accounts script middle (taken ++ next.inHand)) :
    Continues handler supplies script lifecycle (next.carryOn now).handler
      (next.carryOn now).surroundings (middle.play (next.carryOn now).dialogue) := by
  obtain ⟨turn, same, effort, left⟩ :
      ∃ turn : Turn (Supplies κ) SharedKey,
        turn = (if next.consuming then next.read next.desk now else next.write next.desk.clear now) ∧
        Effort next now next.inHand turn.answer turn.handler turn.surroundings ∧
        ∀ mode, turn.answer = .ok mode → inHand { turn.handler with desk := turn.blob } = [] := by
    refine ⟨_, rfl, ?_⟩
    by_cases consuming : next.consuming = true
    · rw [inHand, if_pos consuming, if_pos consuming]
      refine ⟨.read next.desk, fun mode _ => ?_⟩
      have absorbed := blob_read next next.desk now
      simp only [inHand, absorbed]
      split
      · exact List.drop_of_length_le (Nat.le_of_eq (Blob.length_contents _))
      · rfl
    · rw [inHand, if_neg consuming, if_neg consuming]
      refine ⟨.write next.desk.clear, fun mode fine => ?_⟩
      have writing := writing_write next next.desk.clear now
      rw [fine] at writing
      have kept := writing.consuming
      simp only [inHand, kept, consuming]
      rfl
  simp only [carryOn]
  rw [← same]
  rcases answered : turn.answer with fault | mode
  · rw [answered] at effort
    have closing := Closing.ended entered session effort (Or.inl rfl) turn.blob
      turn.handler.consuming
    simp only [finishTakeover, Script.play, Continues,
      accounts.close Frame.payloads_nil rfl]
    exact closing
  · rw [answered] at effort
    dsimp only
    split
    · rw [Script.play_bind]
      obtain ⟨sent, done⟩ := Frame.isSome_play_send turn.blob.contents middle
      have kept := Frame.reads_play_send turn.blob.contents middle
      revert done kept
      generalize middle.play (Frame.send turn.blob.contents) = outcome
      rcases outcome with ⟨_, after⟩
      rintro rfl kept
      have unread : Script.supply middle.reads = [] ++ Script.supply after.reads := by
        rw [kept]
        rfl
      rcases sent with fault | _
      · exact continues_end entered session effort (Or.inr ⟨fault, rfl⟩) turn.blob accounts
          Frame.payloads_nil unread
      · refine continues_obey entered session effort turn.blob (Or.inl (left mode answered)) ?_
        obtain ⟨used, frames, supplied, flat, whole⟩ := accounts
        exact ⟨used, frames, by rw [supplied, unread]; rfl, flat, whole⟩
    · exact continues_obey entered session effort turn.blob (Or.inl (left mode answered)) accounts

end

theorem closing_run {handler : SharedKey} {supplies : Supplies κ} {script : Script} {bound : Nat}
    {takeover : Takeover (Supplies κ) SharedKey}
    (ran : Takeover.run bound handler supplies script = some takeover) :
    Closing handler supplies (Frame.payloads (script.given takeover.script)).flatten
      takeover.answer takeover.handler takeover.surroundings := by
  have unread (later : Script) (same : later = script) :
      (Frame.payloads (script.given later)).flatten = [] :=
    (Frame.Accounts.begin script).close Frame.payloads_nil (by rw [same]; rfl)
  have opening : Handler.takeOver handler supplies = handler.takeOver supplies := rfl
  rw [Takeover.run, opening] at ran
  cases bound with
  | zero => cases ran
  | succ bound =>
      rw [Takeover.follow] at ran
      rcases entered : handler.lifecycle.enter .takeover with ⟨lifecycle, _ | answer⟩
      · simp only [takeOver, entered, Script.play] at ran
        refine Takeover.follow_induction
          (fun stretch now => ∃ next later taken, stretch = next.carryOn later ∧
            Session { handler with lifecycle } supplies taken next later ∧
            Frame.Accounts script now (taken ++ next.inHand))
          (fun takeover =>
            Closing handler supplies (Frame.payloads (script.given takeover.script)).flatten
              takeover.answer takeover.handler takeover.surroundings)
          ?_ ?_ ?_ ?_ ran
        · rintro _ now later ⟨next, middle, taken, rfl, session, accounts⟩ played
          have continues := continues_carryOn entered session accounts
          rw [played] at continues
          exact continues
        · rintro _ now last answer later ⟨next, middle, taken, rfl, session, accounts⟩ played
          have continues := continues_carryOn entered session accounts
          rw [played] at continues
          exact continues
        · rintro _ now last later ⟨next, middle, taken, rfl, session, accounts⟩ played
          have continues := continues_carryOn entered session accounts
          rw [played] at continues
          obtain ⟨taken, session, accounts⟩ := continues
          exact ⟨last, _, taken, rfl, session, accounts⟩
        · have beginning : Session { handler with lifecycle } supplies [] { handler with lifecycle }
              supplies := .opened
          have blank := beginning.desk (Blob.blank takeoverCapacity) handler.consuming
          refine ⟨_, supplies, [], rfl, blank, ?_⟩
          have noneLeft :
              inHand { handler with lifecycle, desk := Blob.blank takeoverCapacity } = [] := by
            rw [inHand]
            split <;> rfl
          rw [noneLeft]
          exact Frame.Accounts.begin script
      · simp only [takeOver, entered, Script.play, Option.some.injEq] at ran
        subst ran
        rw [unread script rfl]
        exact .answered entered

/-- Every call is answered at once or is a session that comes to an end. -/
theorem closing_contact {handler next : SharedKey} {supplies later : Supplies κ} {taken : Bytes}
    {answer : Option Answer} (contact : Contact handler supplies taken answer next later) :
    Closing handler supplies taken answer next later := by
  have blobCall (work : SharedKey → Blob → Supplies κ → Turn (Supplies κ) SharedKey)
      (blob : Blob) (given : Blob → Bytes) (unchanged : given blob = [])
      (effort : ∀ opened : SharedKey, Effort opened supplies (given (work opened blob supplies).blob)
        (work opened blob supplies).answer (work opened blob supplies).handler
        (work opened blob supplies).surroundings) :
      Closing handler supplies (given (call work handler blob supplies).blob)
        (some (call work handler blob supplies).answer) (call work handler blob supplies).handler
        (call work handler blob supplies).surroundings := by
    rw [call]
    rcases entered : handler.lifecycle.enter .blob with ⟨lifecycle, _ | answer⟩
    · exact .ended entered .opened (effort _) (Or.inl rfl) _ _
    · dsimp only
      rw [unchanged]
      exact .answered entered
  cases contact with
  | produce blob => exact blobCall write blob (fun _ => []) rfl fun _ => .write blob
  | consume blob =>
      refine blobCall read blob blob.given (by simp [Blob.given]) fun opened => ?_
      rw [blob_read, Inbox.given_absorb]
      exact .read blob
  | process ran => exact closing_run ran

end Parley.SharedKey
