import Parley.Proofs.Message.Chunks
import Parley.Proofs.SharedKey.Lives

/-!
What handlers emit. The bytes that a handler puts into blobs are the messages that it has said, in
order and none of them twice; and whatever it is made to do, these are the messages of its role.
-/

namespace Parley

def spoken (log : List Deed) : List Message :=
  log.filterMap fun
    | .said message => some message
    | _ => none

theorem spoken_append (early late : List Deed) : spoken (early ++ late) = spoken early ++ spoken late :=
  List.filterMap_append

namespace SharedKey

open Lifecycle

variable {κ : Type} {start handler next : SharedKey} {role : Role} {log more : List Deed}
  {messages : List Message} {emitted bytes : Bytes} {answer : Answer}

theorem spoken_deeds (before after : SharedKey) (early late : Supplies κ) (taken given : Bytes) :
    spoken (deeds before after early late taken given) = (said before after given).toList := by
  rw [deeds, spoken_append, spoken_append]
  rcases heard before after taken with _ | one <;>
    rcases early.nonces.given late.nonces with _ | own <;>
      rcases said before after given with _ | other <;> rfl

/-! ## Moves and what they emit -/

inductive Emitting (κ : Type) [KeyStore κ] : Posture → List Deed → Bytes → Posture → Prop
  | produce {handler : SharedKey} {supplies : Supplies κ} {blob : Blob}
      {turn : Turn (Supplies κ) SharedKey} (called : Handler.produce handler blob supplies = turn) :
      Emitting κ ⟨handler, false⟩
        (deeds handler turn.handler supplies turn.surroundings [] (blob.gained turn.blob))
        (blob.gained turn.blob) ⟨turn.handler, false⟩
  | consume {handler : SharedKey} {supplies : Supplies κ} {blob : Blob}
      {turn : Turn (Supplies κ) SharedKey} (called : Handler.consume handler blob supplies = turn) :
      Emitting κ ⟨handler, false⟩
        (deeds handler turn.handler supplies turn.surroundings (blob.given turn.blob) [])
        (blob.gained turn.blob) ⟨turn.handler, false⟩
  | takeOver {handler next : SharedKey} {supplies : Supplies κ} {answer : Option Answer}
      {stretch : Stretch (Supplies κ) SharedKey}
      (begun : Handler.takeOver handler supplies = stretch)
      (leads : stretch.dialogue.Leads (next, answer)) :
      Emitting κ ⟨handler, false⟩
        (deeds handler stretch.handler supplies stretch.surroundings [] []) []
        ⟨next, answer.isNone⟩
  | carryOn {handler next : SharedKey} {supplies : Supplies κ} {answer : Option Answer}
      {stretch : Stretch (Supplies κ) SharedKey}
      (begun : Handler.carryOn handler supplies = stretch)
      (leads : stretch.dialogue.Leads (next, answer)) :
      Emitting κ ⟨handler, true⟩
        (deeds handler stretch.handler supplies stretch.surroundings handler.inHand
          (handler.offered stretch.handler))
        (handler.offered stretch.handler) ⟨next, answer.isNone⟩
  | givenUp {handler : SharedKey} {supplies : Supplies κ}
      {stretch : Stretch (Supplies κ) SharedKey}
      (begun : Handler.carryOn handler supplies = stretch)
      (waits : ∀ value, stretch.dialogue ≠ .done value) :
      Emitting κ ⟨handler, true⟩
        (deeds handler stretch.handler supplies stretch.surroundings handler.inHand
          (handler.offered stretch.handler))
        (handler.offered stretch.handler) ⟨stretch.handler, false⟩

inductive Emits (κ : Type) [KeyStore κ] (start : SharedKey) : List Deed → Bytes → Posture → Prop
  | begin : Emits κ start [] [] ⟨start, false⟩
  | move {early late : List Deed} {emitted bytes : Bytes} {now next : Posture}
      (emits : Emits κ start early emitted now) (emitting : Emitting κ now late bytes next) :
      Emits κ start (early ++ late) (emitted ++ bytes) next

inductive Work (κ : Type) [KeyStore κ] (handler : SharedKey) :
    List Deed → Bytes → Answer → SharedKey → Prop
  | write {blob : Blob} {supplies : Supplies κ} {turn : Turn (Supplies κ) SharedKey}
      (written : handler.write blob supplies = turn) :
      Work κ handler
        (deeds handler turn.handler supplies turn.surroundings [] (blob.gained turn.blob))
        (blob.gained turn.blob) turn.answer (turn.handler.settle turn.answer)
  | read {blob : Blob} {supplies : Supplies κ} {turn : Turn (Supplies κ) SharedKey}
      (read : handler.read blob supplies = turn) :
      Work κ handler
        (deeds handler turn.handler supplies turn.surroundings
          (blob.contents.drop blob.position) [])
        [] turn.answer (turn.handler.settle turn.answer)

inductive Aftermath (worked : SharedKey) : SharedKey → Prop
  | kept (desk : Blob) (consuming : Bool) : Aftermath worked { worked with desk, consuming }
  | broken (desk : Blob) (consuming : Bool) (fault : Fault) :
      Aftermath worked ({ worked with desk, consuming }.settle (.error fault))

/-- All that a move can come to: a call is answered or opened at once, or work is done. -/
inductive Doing (κ : Type) [KeyStore κ] (handler : SharedKey) :
    List Deed → Bytes → SharedKey → Prop
  | nothing {lifecycle : Lifecycle} (desk : Blob) {answer : Option Answer}
      (entry : Entry handler.lifecycle lifecycle answer) :
      Doing κ handler [] [] { handler with lifecycle, desk }
  | work {lifecycle : Lifecycle} {more : List Deed} {bytes : Bytes} {answer : Answer}
      {worked next : SharedKey}
      (opening : lifecycle = handler.lifecycle ∨ Entry handler.lifecycle lifecycle none)
      (exchanging : lifecycle.stage = .exchanging)
      (work : Work κ { handler with lifecycle } more bytes answer worked)
      (aftermath : Aftermath worked next) : Doing κ handler more bytes next

variable [KeyStore κ]

theorem Emitting.move {now next : Posture} (emitting : Emitting κ now more bytes next) :
    Move κ now more next := by
  cases emitting with
  | produce called => exact .produce called
  | consume called => exact .consume called
  | takeOver begun leads => exact .takeOver begun leads
  | carryOn begun leads => exact .carryOn begun leads
  | givenUp begun waits => exact .givenUp begun waits

theorem Emits.life {now : Posture} (emits : Emits κ start log emitted now) :
    Life κ start log now := by
  induction emits with
  | begin => exact .begin
  | move _ emitting ih => exact ih.move emitting.move

omit [KeyStore κ] in
theorem aftermath_self (worked : SharedKey) : Aftermath worked worked :=
  .kept worked.desk worked.consuming

theorem work_round (handler : SharedKey) (supplies : Supplies κ) :
    Work κ handler
      (deeds handler (handler.round supplies).handler supplies
        (handler.round supplies).surroundings handler.inHand
        (handler.offered { (handler.round supplies).handler with
          desk := (handler.round supplies).blob }))
      (handler.offered { (handler.round supplies).handler with
        desk := (handler.round supplies).blob })
      (handler.round supplies).answer
      ((handler.round supplies).handler.settle (handler.round supplies).answer) := by
  rw [inHand, offered]
  rcases consuming : handler.consuming with _ | _
  · rw [round, consuming]
    exact .write (rfl : handler.write handler.desk.clear supplies = _)
  · rw [round, consuming]
    exact .read (rfl : handler.read handler.desk supplies = _)

theorem Emitting.doing {now next : Posture} (emitting : Emitting κ now more bytes next)
    (engaged : now.engaged = true → now.handler.lifecycle.stage = .exchanging) :
    Doing κ now.handler more bytes next.handler := by
  cases emitting with
  | @produce handler supplies blob turn called =>
      subst called
      have opening : Handler.produce handler blob supplies = handler.call write blob supplies := rfl
      rw [opening, call]
      rcases entered : handler.lifecycle.enter .blob with ⟨lifecycle, _ | answer⟩
      · have entry := entry_enter entered
        dsimp only
        exact .work (Or.inr entry) entry.exchanging.1 (.write rfl) (aftermath_self _)
      · have nothing := Doing.nothing (κ := κ) handler.desk (entry_enter entered)
        dsimp only
        rw [Blob.gained_self, deeds_entered]
        exact nothing
  | @consume handler supplies blob turn called =>
      subst called
      have opening : Handler.consume handler blob supplies = handler.call read blob supplies := rfl
      rw [opening, call]
      rcases entered : handler.lifecycle.enter .blob with ⟨lifecycle, _ | answer⟩
      · have entry := entry_enter entered
        dsimp only
        rw [blob_read, Inbox.given_absorb, Inbox.gained_absorb]
        exact .work (Or.inr entry) entry.exchanging.1 (.read rfl) (aftermath_self _)
      · have nothing := Doing.nothing (κ := κ) handler.desk (entry_enter entered)
        dsimp only
        rw [Blob.gained_self, Blob.given_self, deeds_entered]
        exact nothing
  | @takeOver handler next supplies answer stretch begun leads =>
      subst begun
      have opening : Handler.takeOver handler supplies = handler.takeOver supplies := rfl
      rw [opening, SharedKey.takeOver] at leads ⊢
      rcases entered : handler.lifecycle.enter .takeover with ⟨lifecycle, _ | given⟩
      · rw [entered] at leads
        cases Dialogue.leads_done_iff.mp leads
        have nothing := Doing.nothing (κ := κ) (Blob.blank takeoverCapacity)
          (entry_enter entered)
        dsimp only
        rw [deeds_entered]
        exact nothing
      · rw [entered] at leads
        cases Dialogue.leads_done_iff.mp leads
        have nothing := Doing.nothing (κ := κ) handler.desk (entry_enter entered)
        dsimp only
        rw [deeds_entered]
        exact nothing
  | @carryOn handler next supplies answer stretch begun leads =>
      subst begun
      obtain ⟨same, surroundings, _⟩ :=
        outgrowth_carryOn (rfl : Handler.carryOn handler supplies = _)
      have rounds := rounds_carryOn leads
      rw [surroundings, same]
      refine .work (Or.inl rfl) (engaged rfl) (work_round handler supplies) ?_
      cases rounds with
      | broken answered =>
          rw [answered]
          exact .kept _ _
      | worked answered outgrowth =>
          rw [answered]
          cases outgrowth with
          | onward _ desk _ => exact .kept desk _
          | ended _ => exact .kept _ _
          | @broken fault _ => exact .broken _ _ fault
  | @givenUp handler supplies stretch begun waits =>
      obtain ⟨same, surroundings, ends⟩ := outgrowth_carryOn begun
      have work := work_round handler supplies
      rw [surroundings, same]
      refine .work (Or.inl rfl) (engaged rfl) work ?_
      rcases answered : (handler.round supplies).answer with fault | mode
      · rw [answered] at ends
        exact absurd ends (waits _)
      · exact .kept _ _

/-! ## What work adds to the queue -/

omit [KeyStore κ] in
theorem said_of_encodes {before after : SharedKey} {given encoded : Bytes} {reply : Option Message}
    (encodes : Encodes reply.toList encoded)
    (queued : given ++ after.outbox.bytes = before.outbox.bytes ++ encoded) :
    said before after given = reply := by
  rcases reply with _ | message
  · cases encodes
    exact said_of_kept (queued.trans (List.append_nil _))
  · rcases encodes with _ | ⟨encoded, _ | _⟩
    rw [List.append_nil] at queued
    exact said_of_queued queued encoded

omit [KeyStore κ] in
theorem queued_prepare (handler : SharedKey) (supplies : Supplies κ) :
    ∃ (reply : Option Message) (encoded : Bytes), Encodes reply.toList encoded ∧
      (handler.prepare supplies).1.outbox.bytes = handler.outbox.bytes ++ encoded ∧
      (reply = none ∨ handler.outbox.bytes = []) := by
  have prepared := prepare_preparation handler supplies
  have faulty := @broken_prepare _ handler (handler.prepare supplies).1 supplies
    (handler.prepare supplies).2.1
  revert prepared faulty
  rcases handler.prepare supplies with ⟨next, later, answer⟩
  intro prepared faulty
  dsimp only at prepared faulty ⊢
  cases prepared with
  | queued _ => exact ⟨none, [], .nil, (List.append_nil _).symm, Or.inl rfl⟩
  | idle _ _ => exact ⟨none, [], .nil, (List.append_nil _).symm, Or.inl rfl⟩
  | opened _ _ _ => exact ⟨none, [], .nil, (List.append_nil _).symm, Or.inl rfl⟩
  | greeted _ _ _ _ encoded noneQueued =>
      have empty : handler.outbox.bytes = [] := by
        simpa [Outbox.isEmpty] using noneQueued.1
      exact ⟨some _, _, .single encoded, rfl, Or.inr empty⟩
  | broken _ _ =>
      obtain ⟨_, _, outbox⟩ := faulty rfl
      exact ⟨none, [], .nil, by rw [outbox, List.append_nil], Or.inl rfl⟩

omit [KeyStore κ] in
theorem queued_write (handler : SharedKey) (blob : Blob) (supplies : Supplies κ) :
    ∃ (reply : Option Message) (encoded : Bytes), Encodes reply.toList encoded ∧
      blob.gained (handler.write blob supplies).blob ++
        (handler.write blob supplies).handler.outbox.bytes = handler.outbox.bytes ++ encoded ∧
      (reply = none ∨ handler.outbox.bytes = []) := by
  obtain ⟨reply, encoded, encodes, queued, fresh⟩ := queued_prepare handler supplies
  refine ⟨reply, encoded, encodes, ?_, fresh⟩
  rw [write]
  revert queued
  rcases handler.prepare supplies with ⟨next, later, answer⟩
  intro queued
  split
  · rename_i same
    cases same
    exact (gained_flush next blob).trans queued
  · rename_i same
    cases same
    rw [Blob.gained_self]
    exact queued

omit [KeyStore κ] in
theorem Response.queued {supplies later : Supplies κ} {message : Message} {reply : Option Message}
    (response : Response handler supplies message reply next later answer) :
    ∃ encoded, Encodes reply.toList encoded ∧
      next.outbox.bytes = handler.outbox.bytes ++ encoded := by
  cases response with
  | broken _ outbox _ => exact ⟨[], .nil, by rw [outbox, List.append_nil]⟩
  | rejected _ encoded _ => exact ⟨_, .single encoded, rfl⟩
  | failed => exact ⟨[], .nil, (List.append_nil _).symm⟩
  | unbound _ => exact ⟨[], .nil, (List.append_nil _).symm⟩
  | keyless _ _ => exact ⟨[], .nil, (List.append_nil _).symm⟩
  | proved _ _ _ _ _ encoded => exact ⟨_, .single encoded, rfl⟩
  | admitted _ _ _ _ => exact ⟨[], .nil, (List.append_nil _).symm⟩
  | delayed _ _ _ => exact ⟨[], .nil, (List.append_nil _).symm⟩
  | challenged _ _ _ _ _ encoded => exact ⟨_, .single encoded, rfl⟩
  | accepted _ _ _ _ encoded => exact ⟨_, .single encoded, rfl⟩

theorem spoken_handled {message : Message} {reply : Option Message} {first : List Deed}
    {own : Option Nonce} (came : first = [.heard message] ∨ first = []) :
    spoken (first ++ own.toList.map .drew ++ reply.toList.map .said) = reply.toList := by
  rcases came with rfl | rfl <;> rcases own with _ | own <;> rcases reply with _ | reply <;> rfl

omit [KeyStore κ] in
theorem Listening.queued (listening : Listening (κ := κ) handler more next answer) :
    ∃ encoded, Encodes (spoken more) encoded ∧
      next.outbox.bytes = handler.outbox.bytes ++ encoded := by
  cases listening with
  | nothing inbox => exact ⟨[], .nil, (List.append_nil _).symm⟩
  | handled came response =>
      rw [spoken_handled (came.imp And.right And.right)]
      exact response.queued

theorem Work.queued {worked : SharedKey} (work : Work κ handler more bytes answer worked) :
    ∃ encoded, Encodes (spoken more) encoded ∧
      bytes ++ worked.outbox.bytes = handler.outbox.bytes ++ encoded := by
  cases work with
  | @write blob supplies turn written =>
      subst written
      obtain ⟨reply, encoded, encodes, queued, _⟩ := queued_write handler blob supplies
      rw [spoken_deeds, said_of_encodes encodes queued]
      exact ⟨encoded, encodes, queued⟩
  | @read blob supplies turn read =>
      subst read
      exact (listening_read handler blob supplies).queued

theorem Doing.queued (doing : Doing κ handler more bytes next) :
    ∃ encoded, Encodes (spoken more) encoded ∧
      bytes ++ next.outbox.bytes = handler.outbox.bytes ++ encoded := by
  cases doing with
  | nothing _ entry => exact ⟨[], .nil, (List.append_nil _).symm⟩
  | work opening exchanging work aftermath =>
      cases aftermath with
      | kept _ _ => exact work.queued
      | broken _ _ _ => exact work.queued

/-! ## What a side says -/

/-- All that a side says in a handshake, from its first message to its last. -/
inductive Speech : Role → List Message → Prop
  | proved (protocol user : String) (nonce tag : Bytes) :
      Speech .client [.hello protocol user nonce, .proof tag]
  | declined (protocol user : String) (nonce : Bytes) (reason : String) :
      Speech .client [.hello protocol user nonce, .verdict false reason]
  | judged (server : String) (nonce : Bytes) (tag : Option Bytes) (accepted : Bool)
      (reason : String) :
      Speech .server [.challenge server nonce tag, .verdict accepted reason]
  | refused (reason : String) : Speech .server [.verdict false reason]

/-- The beginning of a speech that can be brought to its end. -/
def Begun (role : Role) (messages : List Message) : Prop :=
  ∃ rest bytes, Speech role (messages ++ rest) ∧ Encodes rest bytes

/-- What a side has said by the time it is at a step. -/
inductive SaidBy : Role → Step → List Message → Prop
  | unheard : SaidBy .client .start []
  | greeted (protocol user : String) (nonce : Bytes) :
      SaidBy .client .awaitChallenge [.hello protocol user nonce]
  | proved (protocol user : String) (nonce tag : Bytes) :
      SaidBy .client .awaitVerdict [.hello protocol user nonce, .proof tag]
  | resting : SaidBy .server .start []
  | listening : SaidBy .server .awaitHello []
  | challenged (server : String) (nonce : Bytes) (tag : Option Bytes) :
      SaidBy .server .awaitProof [.challenge server nonce tag]
  | done {role : Role} {messages : List Message} (begun : Begun role messages) :
      SaidBy role .done messages

theorem SaidBy.begun {step : Step} (said : SaidBy role step messages) : Begun role messages := by
  have verdict : Encodes [.verdict false ""] _ :=
    .single (Message.encode_of_fits (by decide +kernel))
  have proof : Encodes [.proof []] _ := .single (Message.encode_of_fits (by decide +kernel))
  have hello : Encodes [.hello "" "" []] _ :=
    .single (Message.encode_of_fits (by decide +kernel))
  cases said with
  | unheard => exact ⟨_, _, .proved "" "" [] [], hello.append proof⟩
  | greeted protocol user nonce => exact ⟨_, _, .proved protocol user nonce [], proof⟩
  | proved protocol user nonce tag => exact ⟨[], [], .proved protocol user nonce tag, .nil⟩
  | resting => exact ⟨_, _, .refused "", verdict⟩
  | listening => exact ⟨_, _, .refused "", verdict⟩
  | challenged server nonce tag => exact ⟨_, _, .judged server nonce tag false "", verdict⟩
  | done begun => exact begun

inductive Speaks (role : Role) (handler : SharedKey) (messages : List Message) : Prop
  | going (roleEq : handler.lifecycle.role = some role)
      (said : SaidBy role handler.step messages)
  | ended {mode : Mode} (stage : handler.lifecycle.stage = .finished mode)
      (begun : Begun role messages)

theorem Speaks.begun (speaks : Speaks role handler messages) : Begun role messages := by
  cases speaks with
  | going _ said => exact said.begun
  | ended _ begun => exact begun

theorem Speaks.at_work (speaks : Speaks role handler messages)
    (exchanging : handler.lifecycle.stage = .exchanging) :
    handler.lifecycle.role = some role ∧ SaidBy role handler.step messages := by
  cases speaks with
  | going roleEq said => exact ⟨roleEq, said⟩
  | ended stage _ => simp [exchanging] at stage

theorem speaks_fault (handler : SharedKey) (fault : Fault) (begun : Begun role messages) :
    Speaks role (handler.settle (.error fault)) messages := .ended rfl begun

theorem Speaks.written (speaks : Speaks role handler messages)
    (exchanging : handler.lifecycle.stage = .exchanging)
    (written : Written handler more next answer) :
    Speaks role (next.settle answer) (messages ++ spoken more) := by
  obtain ⟨roleEq, said⟩ := speaks.at_work exchanging
  cases written with
  | kept outbox mode =>
      rw [spoken, List.filterMap_nil, List.append_nil]
      exact .going roleEq said
  | opened server step =>
      obtain rfl := Option.some.inj (roleEq.symm.trans server)
      rw [step] at said
      cases said
      exact .going roleEq .listening
  | greeted client step _ _ =>
      obtain rfl := Option.some.inj (roleEq.symm.trans client)
      rw [step] at said
      cases said
      exact .going roleEq (.greeted _ _ _)
  | sent =>
      rw [spoken, List.filterMap_nil, List.append_nil]
      have worked : Lifecycle.Worked handler.lifecycle _ _ :=
        worked_apply (handler.afterSend.getD .await)
      exact .going (worked.role.trans roleEq) said
  | @broken own _ fault _ =>
      have silent : spoken (own.toList.map .drew) = [] := by cases own <;> rfl
      rw [silent, List.append_nil]
      exact speaks_fault next fault said.begun

omit [KeyStore κ] in
theorem Speaks.responded {supplies later : Supplies κ} {message : Message} {reply : Option Message}
    (roleEq : handler.lifecycle.role = some role) (said : SaidBy role handler.step messages)
    (response : Response handler supplies message reply next later answer) :
    Speaks role (next.settle answer) (messages ++ reply.toList) := by
  have silent : messages ++ Option.toList none = messages := List.append_nil _
  cases response with
  | @broken _ _ _ fault _ _ _ =>
      rw [silent]
      exact speaks_fault next fault said.begun
  | rejected judging _ _ =>
      refine .going roleEq (.done ⟨[], [], ?_, .nil⟩)
      rw [List.append_nil]
      rcases judging with ⟨client, step⟩ | ⟨server, step | step⟩ <;>
        rw [step] at said
      · obtain rfl := Option.some.inj (roleEq.symm.trans client)
        cases said
        exact .declined _ _ _ _
      · obtain rfl := Option.some.inj (roleEq.symm.trans server)
        cases said
        exact .refused _
      · obtain rfl := Option.some.inj (roleEq.symm.trans server)
        cases said
        exact .judged _ _ _ false _
  | failed =>
      rw [silent]
      exact .ended rfl said.begun
  | unbound _ =>
      rw [silent]
      exact .going roleEq said
  | keyless _ _ =>
      rw [silent]
      exact .going roleEq said
  | proved client step _ _ _ _ =>
      rw [step] at said
      cases said
      exact .going roleEq (.proved _ _ _ _)
  | admitted _ _ _ _ =>
      rw [silent]
      exact .ended rfl said.begun
  | delayed _ _ _ =>
      rw [silent]
      exact .going roleEq said
  | challenged server step _ _ _ _ =>
      rw [step] at said
      cases said
      exact .going roleEq (.challenged _ _ _)
  | accepted server step _ _ _ =>
      rw [step] at said
      cases said
      refine .going ?_ (.done ⟨[], [], .judged _ _ _ true "", .nil⟩)
      exact (worked_welcoming handler _).role.trans roleEq

omit [KeyStore κ] in
theorem Speaks.listened (speaks : Speaks role handler messages)
    (exchanging : handler.lifecycle.stage = .exchanging)
    (listening : Listening (κ := κ) handler more next answer) :
    Speaks role (next.settle answer) (messages ++ spoken more) := by
  obtain ⟨roleEq, said⟩ := speaks.at_work exchanging
  cases listening with
  | nothing inbox =>
      rw [spoken, List.filterMap_nil, List.append_nil]
      rcases answer with fault | mode
      · exact speaks_fault _ fault said.begun
      · exact .going roleEq said
  | handled came response =>
      rw [spoken_handled (came.imp And.right And.right)]
      exact @Speaks.responded _ { handler with inbox := _, deferred := none } _ _ _ _ _ _ _ _
        roleEq said response

omit [KeyStore κ] in
theorem Speaks.entered (speaks : Speaks role handler messages) {lifecycle : Lifecycle}
    {given : Option Answer} (entry : Entry handler.lifecycle lifecycle given) (desk : Blob) :
    Speaks role { handler with lifecycle, desk } messages := by
  cases speaks with
  | going roleEq said => exact .going (entry.role.trans roleEq) said
  | ended stage begun =>
      rcases entry.stage with same | ⟨_, bound | exchanging⟩
      · exact .ended (same.trans stage) begun
      · simp [bound] at stage
      · simp [exchanging] at stage

theorem Speaks.worked {worked : SharedKey} (speaks : Speaks role handler messages)
    (exchanging : handler.lifecycle.stage = .exchanging)
    (work : Work κ handler more bytes answer worked) :
    Speaks role worked (messages ++ spoken more) := by
  cases work with
  | @write blob supplies turn written =>
      subst written
      exact speaks.written exchanging (written_write handler blob supplies)
  | @read blob supplies turn read =>
      subst read
      exact speaks.listened exchanging (listening_read handler blob supplies)

theorem Speaks.doing (speaks : Speaks role handler messages)
    (doing : Doing κ handler more bytes next) :
    Speaks role next (messages ++ spoken more) := by
  cases doing with
  | nothing _ entry =>
      rw [spoken, List.filterMap_nil, List.append_nil]
      exact speaks.entered entry _
  | @work lifecycle _ _ _ _ _ opening exchanging work aftermath =>
      have opened : Speaks role { handler with lifecycle } messages := by
        rcases opening with rfl | entry
        · exact speaks
        · exact speaks.entered entry handler.desk
      have after := opened.worked exchanging work
      cases aftermath with
      | kept _ _ =>
          cases after with
          | going roleEq said => exact .going roleEq said
          | ended stage begun => exact .ended stage begun
      | broken desk consuming fault => exact speaks_fault _ fault after.begun

/-! ## Whole lives -/

structure Refused (handler : SharedKey) : Prop where
  stage : handler.lifecycle.stage = .unbound
  role : handler.lifecycle.role = none
  outbox : handler.outbox = {}

theorem refused_or_bound_init {handler : SharedKey} (unused : handler.outbox = {})
    (identity : Option Identity) (asked : Role) (supplies : Supplies κ) :
    Refused (handler.init identity asked supplies).handler ∨
      ∃ role, (handler.init identity asked supplies).handler.lifecycle.stage = .bound ∧
        (handler.init identity asked supplies).handler.lifecycle.role = some role := by
  have refused (reason : String) (supplies : Supplies κ) :
      Refused (handler.refuse reason supplies).handler := ⟨rfl, rfl, unused⟩
  simp only [init]
  split
  · exact Or.inl (refused _ _)
  · split
    · exact Or.inl (refused _ _)
    · rw [initClient]
      split
      · exact Or.inr ⟨_, rfl, rfl⟩
      · exact Or.inl (refused _ _)
      · exact Or.inl (refused _ _)
    · exact Or.inr ⟨_, rfl, rfl⟩

theorem refused_or_primed {variant : Variant} {supplies began : Supplies κ}
    (initialised : Initialises (fresh variant) supplies start began) :
    Refused start ∨ ∃ role, Primed variant role start := by
  have either : Refused start ∨ ∃ role, start.lifecycle.stage = .bound ∧
      start.lifecycle.role = some role := by
    cases initialised with
    | live identity role => exact refused_or_bound_init rfl identity role supplies
    | declared attributes =>
        have unfolded : Handler.initFrom (fresh variant) attributes supplies =
            (fresh variant).initFrom attributes supplies := rfl
        rw [unfolded, initFrom]
        split
        · exact Or.inl ⟨rfl, rfl, rfl⟩
        · exact refused_or_bound_init rfl _ _ supplies
  rcases either with refused | ⟨role, bound, given⟩
  · exact Or.inl refused
  · exact Or.inr ⟨role, primed_initialises initialised bound given⟩

theorem outbox_initialises {variant : Variant} {supplies began : Supplies κ}
    (initialised : Initialises (fresh variant) supplies start began) : start.outbox = {} := by
  rcases refused_or_primed initialised with refused | ⟨_, primed⟩
  · exact refused.outbox
  · exact primed.outbox

theorem Doing.refused (refused : Refused handler) (doing : Doing κ handler more bytes next) :
    Refused next ∧ more = [] ∧ bytes = [] := by
  have notLetIn {lifecycle : Lifecycle} (entry : Entry handler.lifecycle lifecycle none) :
      False := by
    cases entry with
    | opened _ stage => rcases stage with stage | stage <;> simp [refused.stage] at stage
  cases doing with
  | nothing _ entry =>
      rcases entry.stage with same | ⟨_, bound | exchanging⟩
      · exact ⟨⟨same.trans refused.stage, entry.role.trans refused.role, refused.outbox⟩, rfl, rfl⟩
      · simp [refused.stage] at bound
      · simp [refused.stage] at exchanging
  | work opening exchanging _ _ =>
      rcases opening with rfl | entry
      · simp [refused.stage] at exchanging
      · exact (notLetIn entry).elim

theorem speaks_primed {variant : Variant} (primed : Primed variant role start) :
    Speaks role start [] := by
  refine .going primed.role ?_
  rw [primed.step]
  cases role with
  | client => exact .unheard
  | server => exact .resting

theorem Emits.kept (Kept : List Deed → Bytes → SharedKey → Prop) {now : Posture}
    (emits : Emits κ start log emitted now) (standing : Standing start start [])
    (begun : Kept [] [] start)
    (step : ∀ {log more emitted bytes handler next}, Kept log emitted handler →
      Doing κ handler more bytes next → Kept (log ++ more) (emitted ++ bytes) next) :
    Kept log emitted now.handler := by
  induction emits with
  | begin => exact begun
  | move emits emitting ih =>
      have engaged := (standing.life emits.life).2
      exact step ih (emitting.doing engaged)

theorem Emits.queued {now : Posture} (emits : Emits κ start log emitted now)
    (standing : Standing start start []) (empty : start.outbox = {}) :
    Encodes (spoken log) (emitted ++ now.handler.outbox.bytes) := by
  -- Each move emits from the front of the queue and adds what it says at its end.
  refine emits.kept (fun log emitted handler =>
    Encodes (spoken log) (emitted ++ handler.outbox.bytes)) standing ?_ ?_
  · rw [empty]
    exact .nil
  · intro log more emitted bytes handler next encodes doing
    obtain ⟨encoded, uttered, queued⟩ := doing.queued
    rw [spoken_append, List.append_assoc, queued, ← List.append_assoc]
    exact encodes.append uttered

theorem Emits.speaks {now : Posture} (emits : Emits κ start log emitted now)
    (standing : Standing start start []) {variant : Variant} (primed : Primed variant role start) :
    Speaks role now.handler (spoken log) := by
  refine emits.kept (fun log _ handler => Speaks role handler (spoken log)) standing
    (speaks_primed primed) ?_
  intro log more _ _ handler next speaks doing
  rw [spoken_append]
  exact speaks.doing doing

theorem Emits.refused {now : Posture} (emits : Emits κ start log emitted now)
    (standing : Standing start start []) (refused : Refused start) : log = [] ∧ emitted = [] := by
  refine (emits.kept (fun log emitted handler =>
    Refused handler ∧ log = [] ∧ emitted = []) standing ⟨refused, rfl, rfl⟩ ?_).2
  rintro log more emitted bytes handler next ⟨refused, rfl, rfl⟩ doing
  exact doing.refused refused

theorem Standing.accepted_of_said (standing : Standing start handler log) {reason : String}
    (accepts : .verdict true reason ∈ spoken log) :
    ∃ terms key server rest, Holds start .server terms key handler.memory ∧
      log = terms.serverDeeds key server ++ terms.acceptance key ++ rest := by
  have said : Deed.said (.verdict true reason) ∈ log := by
    obtain ⟨deed, member, found⟩ := List.mem_filterMap.mp accepts
    cases deed with
    | said message =>
        obtain rfl := Option.some.inj found
        exact member
    | _ => cases found
  obtain ⟨story, rest, rfl, storyEq, idle⟩ := standing.told
  have told : Deed.said (.verdict true reason) ∈ story := by
    rcases List.mem_append.mp said with early | late
    · exact early
    · exact (idle _ late).elim
  cases storyEq with
  | silent => simp at told
  | proved _ _ => simp [Terms.clientDeeds, Terms.hello] at told
  | challenged _ _ => simp [Terms.serverDeeds, Terms.challenge] at told
  | accepted holds server => exact ⟨_, _, server, rest, holds, rfl⟩

/--
How what a handler emits conforms to its role. It is a beginning of one of the role's speeches, and
what is still queued goes on with that speech; so nothing follows a verdict. A verdict that accepts
is said only once the proof that the client owes has been heard.
-/
structure Conforms (start : SharedKey) (log : List Deed) (emitted : Bytes) (handler : SharedKey) :
    Prop where
  queued : Encodes (spoken log) (emitted ++ handler.outbox.bytes)
  speech {role : Role} (roleEq : start.lifecycle.role = some role) :
    ∃ messages bytes, Speech role messages ∧ Encodes messages bytes ∧
      spoken log <+: messages ∧ emitted <+: bytes
  silent (roleEq : start.lifecycle.role = none) : emitted = []
  accepted {reason : String} (accepts : .verdict true reason ∈ spoken log) :
    ∃ terms key server rest, Holds start .server terms key handler.memory ∧
      log = terms.serverDeeds key server ++ terms.acceptance key ++ rest

theorem Emits.conforms {variant : Variant} {supplies began : Supplies κ} {now : Posture}
    (initialised : Initialises (fresh variant) supplies start began)
    (emits : Emits κ start log emitted now) : Conforms start log emitted now.handler := by
  have standing := standing_initialises initialised
  have queued := emits.queued standing (outbox_initialises initialised)
  refine ⟨queued, fun {role} roleEq => ?_, fun roleEq => ?_,
    fun accepts => (standing.life emits.life).1.accepted_of_said accepts⟩
  · rcases refused_or_primed initialised with refused | ⟨given, primed⟩
    · rw [refused.role] at roleEq
      cases roleEq
    · obtain rfl := Option.some.inj (primed.role.symm.trans roleEq)
      obtain ⟨rest, bytes, speech, encodes⟩ := (emits.speaks standing primed).begun
      refine ⟨_, _, speech, queued.append encodes, List.prefix_append _ _, ?_⟩
      rw [List.append_assoc]
      exact List.prefix_append _ _
  · rcases refused_or_primed initialised with refused | ⟨given, primed⟩
    · exact (emits.refused standing refused).2
    · rw [primed.role] at roleEq
      cases roleEq

end SharedKey

end Parley
