import Parley.Proofs.Negotiation.Steps
import Parley.Proofs.SharedKey.Emission

/-!
Handlers under a driver. A driver lets a handler read only when it asks for data, waits or goes on
reading; by then all that the handler has said is sent. So no frame holds bytes of two messages,
whatever the capacity of the blob and whatever the channel does.
-/

namespace Parley

theorem length_of_encode {message : Message} {bytes : Bytes}
    (encoded : message.encode = .ok bytes) : bytes.length ≤ 2 + longestBody := by
  have fits := message.encode_isOk_iff.mp ⟨bytes, encoded⟩
  rw [Message.encode_of_fits fits] at encoded
  cases encoded
  rw [List.length_append]
  exact Nat.add_le_add_left fits 2

/-- All of a piece is in one message: it comes when some messages and the first part of this one
have gone before. -/
def Cut (messages : List Message) (gone piece : Bytes) : Prop :=
  ∃ earlier message later encoded bytes first, messages = earlier ++ message :: later ∧
    Encodes earlier encoded ∧ message.encode = .ok bytes ∧ gone = encoded ++ first ∧
    first ++ piece <+: bytes

theorem Cut.append {messages : List Message} {gone piece more : Bytes}
    (cut : Cut messages gone (piece ++ more)) :
    Cut messages gone piece ∧ Cut messages (gone ++ piece) more := by
  obtain ⟨earlier, message, later, encoded, bytes, first, split, encodes, whole, rfl, within⟩ := cut
  rw [← List.append_assoc] at within
  exact ⟨⟨earlier, message, later, encoded, bytes, first, split, encodes, whole, rfl,
      (List.prefix_append _ _).trans within⟩,
    ⟨earlier, message, later, encoded, bytes, first ++ piece, split, encodes, whole,
      List.append_assoc _ _ _, within⟩⟩

theorem Cut.more {messages : List Message} {gone piece : Bytes} (cut : Cut messages gone piece)
    (others : List Message) : Cut (messages ++ others) gone piece := by
  obtain ⟨earlier, message, later, encoded, bytes, first, rfl, rest⟩ := cut
  exact ⟨earlier, message, later ++ others, encoded, bytes, first, by simp, rest⟩

theorem Cut.length_le {messages : List Message} {gone piece : Bytes}
    (cut : Cut messages gone piece) : piece.length ≤ 2 + longestBody := by
  obtain ⟨_, _, _, _, _, first, _, _, whole, _, within⟩ := cut
  have short := within.length_le
  have fits := length_of_encode whole
  rw [List.length_append] at short
  omega

namespace SharedKey

variable {κ : Type} [KeyStore κ] {start handler next : SharedKey} {log more : List Deed}
  {emitted bytes : Bytes} {answer : Answer} {frames : List Bytes} {phase : Parley.Phase SharedKey}

/-- The frames that a driver makes of some bytes: one, or none if there is nothing to send. -/
def framed (bytes : Bytes) : List Bytes := if bytes.isEmpty then [] else [bytes]

def produced (call : Call) (turn : Turn (Supplies κ) SharedKey) : Bytes :=
  match call with
  | .produce => turn.blob.contents
  | .consume => []

/--
A handler under a driver that works through blobs, or lets it take over the channel, with the frames
that the driver has sent for it. The channel may answer anything.
-/
inductive Driven (κ : Type) [KeyStore κ] (start : SharedKey) :
    List Bytes → Parley.Phase SharedKey → Prop
  | blobs (chain : List String) (capacity : Nat) :
      Driven κ start [] (.calling ⟨start, chain, .produce, Blob.blank capacity⟩)
  | direct : Driven κ start [] (.takingOver start true)
  | call {frames : List Bytes} {loop : BlobLoop SharedKey} {next : Parley.Phase SharedKey}
      (supplies : Supplies κ) (driven : Driven κ start frames (.calling loop))
      (leads : (Negotiation.callHandler loop supplies).2.Leads next) :
      Driven κ start
        (frames ++ framed (produced loop.call (Negotiation.turnOf loop supplies))) next
  | obey {frames : List Bytes} {loop : BlobLoop SharedKey} {mode : Mode}
      {next : Parley.Phase SharedKey}
      (driven : Driven κ start frames (.obeying loop mode))
      (leads : (Negotiation.obey loop mode).Leads next) : Driven κ start frames next
  | enter {frames : List Bytes} {handler : SharedKey} {next : Parley.Phase SharedKey}
      (supplies : Supplies κ) (driven : Driven κ start frames (.takingOver handler true))
      (leads : (Negotiation.takeOver handler true supplies).2.Leads next) :
      Driven κ start frames next
  | round {frames : List Bytes} {handler : SharedKey} {next : Parley.Phase SharedKey}
      (supplies : Supplies κ) (driven : Driven κ start frames (.takingOver handler false))
      (leads : (Negotiation.takeOver handler false supplies).2.Leads next) :
      Driven κ start (frames ++ framed (handler.offered (handler.carryOn supplies).handler)) next
  | resume {frames : List Bytes} {handler : SharedKey} {seconds : Nat}
      (driven : Driven κ start frames (.tookOver handler (.wait seconds))) :
      Driven κ start frames (.takingOver handler true)

/-- The modes after which a driver lets a handler read before it has produced again. -/
def Reads (call : Call) : Mode → Prop
  | .needData => True
  | .wait _ => True
  | .continue => call = .consume
  | _ => False

/-- A driver holds a handler in a phase. Where it is to read next, all that it has said is sent. -/
inductive Rides (now : Posture) : Parley.Phase SharedKey → Prop
  | calling {loop : BlobLoop SharedKey} (same : now = ⟨loop.handler, false⟩)
      (sent : loop.call = .consume → now.handler.outbox.bytes = []) : Rides now (.calling loop)
  | obeying {loop : BlobLoop SharedKey} {mode : Mode} (same : now = ⟨loop.handler, false⟩)
      (sent : Reads loop.call mode → now.handler.outbox.bytes = []) :
      Rides now (.obeying loop mode)
  | stopped {handler : SharedKey} (chain : List String) (mode : Mode)
      (same : now = ⟨handler, false⟩) : Rides now (.stopped handler chain mode)
  | entering {handler : SharedKey} (same : now = ⟨handler, false⟩)
      (sent : now.handler.outbox.bytes = []) : Rides now (.takingOver handler true)
  | within {handler : SharedKey} (same : now = ⟨handler, true⟩)
      (sent : handler.consuming = true → now.handler.outbox.bytes = []) :
      Rides now (.takingOver handler false)
  | tookOver {handler : SharedKey} {mode : Mode} (same : now = ⟨handler, false⟩)
      (sent : Reads .produce mode → now.handler.outbox.bytes = []) :
      Rides now (.tookOver handler mode)
  | over (result : Except Fault Outcome) : Rides now (.over result)

/-! ## What turns leave in the queue -/

omit [KeyStore κ] in
theorem sent_write (handler : SharedKey) (blob : Blob) (supplies : Supplies κ) {mode : Mode}
    (answered : (handler.write blob supplies).answer = .ok mode) (filled : mode ≠ .continue) :
    (handler.write blob supplies).handler.outbox.bytes = [] := by
  have writing := writing_write handler blob supplies
  rw [answered] at writing
  revert writing
  generalize (handler.write blob supplies).handler = next
  generalize (handler.write blob supplies).surroundings = later
  intro writing
  have empty {outbox : Outbox} (isEmpty : outbox.isEmpty = true) : outbox.bytes = [] := by
    simpa [Outbox.isEmpty] using isEmpty
  cases writing with
  | unready prepared unready =>
      cases prepared with
      | queued _ => exact absurd rfl unready
      | idle _ noneQueued => exact empty noneQueued.1
      | opened _ _ noneQueued => exact empty noneQueued.1
      | greeted _ _ _ _ _ _ => exact absurd rfl unready
  | flushed prepared flushed =>
      cases flushed with
      | partly _ => exact absurd rfl filled
      | wholly => rfl

omit [KeyStore κ] in
theorem Response.quiet {supplies later : Supplies κ} {message : Message} {reply : Option Message}
    (response : Response handler supplies message reply next later answer)
    (unqueued : answer ≠ .ok .pendingData) : next.outbox = handler.outbox := by
  cases response with
  | broken _ outbox _ => exact outbox
  | rejected _ _ _ => exact absurd rfl unqueued
  | proved _ _ _ _ _ _ => exact absurd rfl unqueued
  | challenged _ _ _ _ _ _ => exact absurd rfl unqueued
  | accepted _ _ _ _ _ => exact absurd rfl unqueued
  | _ => rfl

omit [KeyStore κ] in
theorem Listening.quiet (listening : Listening (κ := κ) handler more next answer)
    (unqueued : answer ≠ .ok .pendingData) : next.outbox = handler.outbox := by
  cases listening with
  | nothing inbox => rfl
  | handled came response => exact response.quiet unqueued

theorem outbox_read (handler : SharedKey) (blob : Blob) (supplies : Supplies κ)
    (unqueued : (handler.read blob supplies).answer ≠ .ok .pendingData) :
    (handler.read blob supplies).handler.outbox = handler.outbox :=
  (listening_read handler blob supplies).quiet unqueued

def Final (handler : SharedKey) : Prop :=
  ∀ mode, handler.lifecycle.stage = .finished mode → mode.isFinal = true

omit [KeyStore κ] in
theorem final_settle {lifecycle : Lifecycle}
    (exchanging : lifecycle.stage = .exchanging)
    (worked : Lifecycle.Worked lifecycle handler.lifecycle answer) :
    Final (handler.settle answer) := by
  intro mode stage
  rcases worked.leaves with ⟨_, _, _, kept, _⟩ | ⟨final, ended, _⟩ | ⟨_, _⟩
  · have same : handler.lifecycle.stage = .finished mode := stage
    simp [kept, exchanging] at same
  · have same : handler.lifecycle.stage = .finished mode := stage
    cases ended.symm.trans same
    exact final
  · cases stage
    rfl

theorem Final.doing (final : Final handler) (doing : Doing κ handler more bytes next) :
    Final next := by
  cases doing with
  | nothing _ entry =>
      intro mode stage
      rcases entry.stage with same | ⟨exchanging, _⟩
      · exact final mode (same.symm.trans stage)
      · have ended : _ = Stage.finished mode := stage
        simp [exchanging] at ended
  | @work lifecycle _ _ answer worked _ opening exchanging work aftermath =>
      have settled : Final worked := by
        cases work with
        | @write blob supplies turn written =>
            subst written
            exact final_settle exchanging
              (writing_write { handler with lifecycle } blob supplies).worked
        | @read blob supplies turn read =>
            subst read
            exact final_settle exchanging
              (reading_read { handler with lifecycle } blob supplies).worked
      cases aftermath with
      | kept _ _ => exact settled
      | broken _ _ _ =>
          intro mode stage
          cases stage
          rfl

theorem Emits.final {now : Posture} (emits : Emits κ start log emitted now)
    (standing : Standing start start []) (begun : Final start) : Final now.handler :=
  emits.kept (fun _ _ handler => Final handler) standing begun Final.doing

theorem not_reads_of_entry {lifecycle : Lifecycle} {mode : Mode} (final : Final handler)
    (entry : Lifecycle.Entry handler.lifecycle lifecycle (some (.ok mode))) (call : Call) :
    ¬ Reads call mode := by
  cases entry with
  | unbound _ => exact id
  | repeated kind stage =>
      have ended := final mode stage
      cases mode <;> first | exact id | cases ended

theorem sent_produce (final : Final handler) (blob : Blob) (supplies : Supplies κ) {mode : Mode}
    (answered : (Handler.produce handler blob supplies).answer = .ok mode)
    (reads : Reads .produce mode) :
    (Handler.produce handler blob supplies).handler.outbox.bytes = [] := by
  have opening : Handler.produce handler blob supplies = handler.call write blob supplies := rfl
  rw [opening, call] at answered ⊢
  rcases entered : handler.lifecycle.enter .blob with ⟨lifecycle, _ | given⟩
  · rw [entered] at answered
    have filled : mode ≠ .continue := by
      rintro rfl
      cases reads
    exact sent_write { handler with lifecycle } blob supplies answered filled
  · rw [entered] at answered
    cases answered
    exact absurd reads (not_reads_of_entry final (Lifecycle.entry_enter entered) .produce)

theorem sent_consume (sent : handler.outbox.bytes = []) (blob : Blob)
    (supplies : Supplies κ) {mode : Mode}
    (answered : (Handler.consume handler blob supplies).answer = .ok mode)
    (reads : Reads .consume mode) :
    (Handler.consume handler blob supplies).handler.outbox.bytes = [] := by
  have opening : Handler.consume handler blob supplies = handler.call read blob supplies := rfl
  rw [opening, call] at answered ⊢
  rcases entered : handler.lifecycle.enter .blob with ⟨lifecycle, _ | given⟩
  · rw [entered] at answered
    have unqueued : (({ handler with lifecycle }.read blob supplies).answer) ≠ .ok .pendingData := by
      intro pending
      cases answered.symm.trans pending
      cases reads
    have same := outbox_read { handler with lifecycle } blob supplies unqueued
    exact (congrArg Outbox.bytes same).trans sent
  · exact sent

/-! ## What drivers do -/

/-- What a handler says in a move, and that it has sent all before if it says anything. -/
def SpeaksAlone (handler : SharedKey) (more : List Deed) : Prop :=
  ∃ reply : Option Message, spoken more = reply.toList ∧
    (reply = none ∨ handler.outbox.bytes = [])

structure Carried (κ : Type) [KeyStore κ] (start : SharedKey) (frames : List Bytes)
    (log : List Deed) (now : Posture) : Prop where
  emits : Emits κ start log frames.flatten now
  single : now.handler.outbox.bytes = [] ∨
    Cut (spoken log) frames.flatten now.handler.outbox.bytes
  apart {before after : List Bytes} {frame : Bytes} (split : frames = before ++ frame :: after) :
    Cut (spoken log) before.flatten frame

theorem flatten_framed (bytes : Bytes) : (framed bytes).flatten = bytes := by
  rw [framed]
  split
  · rename_i empty
    exact (List.isEmpty_iff.mp empty).symm
  · exact List.append_nil _

theorem Carried.move {now next : Posture} (carried : Carried κ start frames log now)
    (standing : Standing start start []) (empty : start.outbox = {})
    (emitting : Emitting κ now more bytes next) (alone : SpeaksAlone now.handler more) :
    Carried κ start (frames ++ framed bytes) (log ++ more) next := by
  obtain ⟨emits, single, apart⟩ := carried
  have flat : (frames ++ framed bytes).flatten = frames.flatten ++ bytes := by
    rw [List.flatten_append, flatten_framed]
  have encodes := emits.queued standing empty
  have engaged := (standing.life emits.life).2
  obtain ⟨encoded, uttered, queued⟩ := (emitting.doing engaged).queued
  have cut : bytes ++ next.handler.outbox.bytes = [] ∨
      Cut (spoken (log ++ more)) frames.flatten (bytes ++ next.handler.outbox.bytes) := by
    rw [spoken_append, queued]
    obtain ⟨reply, same, fresh⟩ := alone
    rw [same] at uttered ⊢
    rcases reply with _ | message
    · cases uttered
      rw [List.append_nil]
      exact single.imp id fun cut => cut.more _
    · have sent := fresh.resolve_left (by simp)
      rcases uttered with _ | ⟨whole, _ | _⟩
      rw [sent, List.append_nil] at encodes
      rw [sent, List.append_nil]
      exact Or.inr ⟨_, message, [], _, _, [], rfl, encodes, whole, (List.append_nil _).symm,
        List.prefix_refl _⟩
  refine ⟨?_, ?_, ?_⟩
  · rw [flat]
    exact emits.move emitting
  · rw [flat]
    rcases cut with nothing | cut
    · exact Or.inl (List.append_eq_nil_iff.mp nothing).2
    · exact Or.inr cut.append.2
  · intro before after frame split
    have earlier {after : List Bytes} (split : frames = before ++ frame :: after) :
        Cut (spoken (log ++ more)) before.flatten frame := by
      rw [spoken_append]
      exact (apart split).more _
    rw [framed] at split
    split at split
    · rw [List.append_nil] at split
      exact earlier split
    · rename_i someBytes
      rcases List.eq_nil_or_concat after with rfl | ⟨rest, last, rfl⟩
      · obtain ⟨rfl, same⟩ := List.append_inj' split rfl
        cases same
        rcases cut with nothing | cut
        · rw [(List.append_eq_nil_iff.mp nothing).1] at someBytes
          exact absurd rfl someBytes
        · exact cut.append.1
      · have same : frames ++ [bytes] = (before ++ frame :: rest) ++ [last] := by
          rw [split]
          simp
        exact earlier (List.append_inj' same rfl).1

omit [KeyStore κ] in
theorem alone_write (handler : SharedKey) (blob : Blob) (supplies : Supplies κ) :
    SpeaksAlone handler
      (deeds handler (handler.write blob supplies).handler supplies
        (handler.write blob supplies).surroundings []
        (blob.gained (handler.write blob supplies).blob)) := by
  obtain ⟨reply, _, encodes, queued, fresh⟩ := queued_write handler blob supplies
  refine ⟨reply, ?_, fresh⟩
  rw [spoken_deeds, said_of_encodes encodes queued]

theorem alone_produce (handler : SharedKey) (blob : Blob) (supplies : Supplies κ)
    {turn : Turn (Supplies κ) SharedKey} (called : Handler.produce handler blob supplies = turn) :
    SpeaksAlone handler
      (deeds handler turn.handler supplies turn.surroundings [] (blob.gained turn.blob)) := by
  subst called
  have opening : Handler.produce handler blob supplies = handler.call write blob supplies := rfl
  rw [opening, call]
  rcases entered : handler.lifecycle.enter .blob with ⟨lifecycle, _ | answer⟩
  · exact alone_write { handler with lifecycle } blob supplies
  · dsimp only
    rw [Blob.gained_self, deeds_entered]
    exact ⟨none, rfl, Or.inl rfl⟩

omit [KeyStore κ] in
theorem alone_of_sent (sent : handler.outbox.bytes = []) {after : SharedKey}
    (early late : Supplies κ) (taken given : Bytes) :
    SpeaksAlone handler (deeds handler after early late taken given) :=
  ⟨_, spoken_deeds _ _ _ _ _ _, Or.inr sent⟩

theorem gained_consume (handler : SharedKey) (blob : Blob) (supplies : Supplies κ) :
    blob.gained (Handler.consume handler blob supplies).blob = [] := by
  have opening : Handler.consume handler blob supplies = handler.call read blob supplies := rfl
  rw [opening, call]
  rcases handler.lifecycle.enter .blob with ⟨lifecycle, _ | answer⟩
  · dsimp only
    rw [blob_read, Inbox.gained_absorb]
  · exact Blob.gained_self blob

theorem emitting_turn {loop : BlobLoop SharedKey} (supplies : Supplies κ) (final : Final loop.handler)
    (sent : loop.call = .consume → loop.handler.outbox.bytes = []) :
    ∃ more,
      Emitting κ ⟨loop.handler, false⟩ more
        (produced loop.call (Negotiation.turnOf loop supplies))
        ⟨(Negotiation.turnOf loop supplies).handler, false⟩ ∧
      SpeaksAlone loop.handler more ∧
      ∀ mode, (Negotiation.turnOf loop supplies).answer = .ok mode → Reads loop.call mode →
        (Negotiation.turnOf loop supplies).handler.outbox.bytes = [] := by
  obtain ⟨handler, chain, call, blob⟩ := loop
  cases call with
  | produce =>
      exact ⟨_, .produce (rfl : Handler.produce handler blob.clear supplies = _),
        alone_produce handler blob.clear supplies rfl,
        fun mode answered reads => sent_produce final blob.clear supplies answered reads⟩
  | consume =>
      have emitting := Emitting.consume (rfl : Handler.consume handler blob supplies = _)
      rw [gained_consume] at emitting
      exact ⟨_, emitting, alone_of_sent (sent rfl) _ _ _ _,
        fun mode answered reads => sent_consume (sent rfl) blob supplies answered reads⟩

theorem sent_round (supplies : Supplies κ)
    (sent : handler.consuming = true → handler.outbox.bytes = []) {mode : Mode}
    (answered : (handler.round supplies).answer = .ok mode)
    (reads : mode = .needData ∨ (∃ seconds, mode = .wait seconds) ∨
      mode = .continue ∧ handler.consuming = true) :
    (handler.round supplies).handler.outbox.bytes = [] := by
  rcases consuming : handler.consuming with _ | _
  · rw [SharedKey.round, consuming] at answered ⊢
    refine sent_write handler handler.desk.clear supplies answered ?_
    rintro rfl
    simp [consuming] at reads
  · rw [SharedKey.round, consuming] at answered ⊢
    have unqueued : (handler.read handler.desk supplies).answer ≠ .ok .pendingData := by
      intro pending
      cases answered.symm.trans pending
      simp at reads
    have same := outbox_read handler handler.desk supplies unqueued
    exact (congrArg Outbox.bytes same).trans (sent consuming)

theorem alone_round (supplies : Supplies κ)
    (sent : handler.consuming = true → handler.outbox.bytes = [])
    {stretch : Stretch (Supplies κ) SharedKey} (begun : handler.carryOn supplies = stretch) :
    SpeaksAlone handler
      (deeds handler stretch.handler supplies stretch.surroundings handler.inHand
        (handler.offered stretch.handler)) := by
  obtain ⟨same, surroundings, _⟩ := outgrowth_carryOn begun
  rw [same, surroundings, inHand, offered]
  rcases consuming : handler.consuming with _ | _
  · rw [SharedKey.round, consuming]
    exact alone_write handler handler.desk.clear supplies
  · exact alone_of_sent (sent consuming) _ _ _ _

omit [KeyStore κ] in
theorem outbox_takeOver {supplies : Supplies κ} {given : Option Answer}
    (leads : (handler.takeOver supplies).dialogue.Leads (next, given)) :
    next.outbox = handler.outbox := by
  rw [SharedKey.takeOver] at leads
  rcases entered : handler.lifecycle.enter .takeover with ⟨lifecycle, _ | answer⟩ <;>
    rw [entered] at leads <;> cases Dialogue.leads_done_iff.mp leads <;> rfl

omit [KeyStore κ] in
theorem Rides.closed {loop : BlobLoop SharedKey} {turn : Turn (Supplies κ) SharedKey}
    (closed : Negotiation.Closed loop turn phase)
    (sent : ∀ mode, turn.answer = .ok mode → Reads loop.call mode →
      turn.handler.outbox.bytes = []) :
    Rides ⟨turn.handler, false⟩ phase := by
  cases closed with
  | broken _ => exact .over _
  | unsent _ => exact .over _
  | obeying answered => exact .obeying rfl (sent _ answered)

theorem Rides.obeyed {now : Posture} {loop : BlobLoop SharedKey} {mode : Mode}
    (same : now = ⟨loop.handler, false⟩)
    (sent : Reads loop.call mode → now.handler.outbox.bytes = [])
    (obeyed : Negotiation.Obeyed loop mode phase) : Rides now phase := by
  cases obeyed with
  | unread _ => exact .over _
  | reads frame => exact .calling same fun _ => sent trivial
  | writes => exact .calling same nofun
  | again => exact .calling same sent
  | waits seconds => exact .calling same fun _ => sent trivial
  | stops _ => exact .stopped _ _ same

theorem Rides.entered {given : Option Answer} (sent : next.outbox.bytes = []) :
    Rides ⟨next, given.isNone⟩ (Negotiation.afterStretch next given) := by
  rcases given with _ | _ | mode
  · exact .within rfl fun _ => sent
  · exact .over _
  · exact .tookOver rfl fun _ => sent

theorem Rides.round {supplies : Supplies κ} {given : Option Answer}
    (sent : handler.consuming = true → handler.outbox.bytes = [])
    (leads : (handler.carryOn supplies).dialogue.Leads (next, given)) :
    Rides ⟨next, given.isNone⟩ (Negotiation.afterStretch next given) := by
  cases rounds_carryOn leads with
  | broken _ => exact .over _
  | @worked mode _ _ answered outgrowth =>
      have quiet := sent_round supplies sent answered
      cases outgrowth with
      | onward goes desk way =>
          refine .within rfl fun consuming => quiet ?_
          rcases way consuming with reads | ⟨again, kept⟩
          · exact Or.inl reads
          · exact Or.inr (Or.inr ⟨again, (consuming_round handler supplies).symm.trans kept⟩)
      | ended _ =>
          refine .tookOver rfl fun reads => quiet ?_
          cases mode <;> first
            | exact Or.inl rfl
            | exact Or.inr (Or.inl ⟨_, rfl⟩)
            | cases reads
      | broken _ => exact .over _

theorem Driven.carried (standing : Standing start start []) (empty : start.outbox = {})
    (final : Final start) (driven : Driven κ start frames phase) :
    ∃ log now, Carried κ start frames log now ∧ Rides now phase := by
  -- `Rides` carries the induction: wherever the driver lets the handler read next, nothing is queued.
  induction driven with
  | blobs chain capacity =>
      exact ⟨[], ⟨start, false⟩, ⟨.begin, Or.inl (congrArg Outbox.bytes empty), by simp⟩,
        .calling rfl nofun⟩
  | direct =>
      exact ⟨[], ⟨start, false⟩, ⟨.begin, Or.inl (congrArg Outbox.bytes empty), by simp⟩,
        .entering rfl (congrArg Outbox.bytes empty)⟩
  | call supplies _ leads ih =>
      obtain ⟨log, now, carried, rides⟩ := ih
      cases rides with
      | calling same sent =>
          subst same
          obtain ⟨more, emitting, alone, later⟩ := emitting_turn supplies
            (carried.emits.final standing final) sent
          exact ⟨_, _, carried.move standing empty emitting alone,
            .closed (Negotiation.closed_of_leads leads) later⟩
  | obey _ leads ih =>
      obtain ⟨log, now, carried, rides⟩ := ih
      cases rides with
      | obeying same sent =>
          exact ⟨log, now, carried, .obeyed same sent (Negotiation.obeyed_of_leads leads)⟩
  | @enter _ handler _ supplies _ leads ih =>
      obtain ⟨log, now, carried, rides⟩ := ih
      cases rides with
      | entering same sent =>
          subst same
          obtain ⟨next, given, talked, rfl⟩ := Negotiation.stretch_of_leads leads
          have emitting := Emitting.takeOver (rfl : Handler.takeOver handler supplies = _) talked
          have moved := carried.move standing empty emitting (alone_of_sent sent _ _ _ _)
          have noFrame : framed [] = [] := rfl
          rw [noFrame, List.append_nil] at moved
          have quiet : next.outbox = handler.outbox := outbox_takeOver talked
          exact ⟨_, _, moved, .entered ((congrArg Outbox.bytes quiet).trans sent)⟩
  | @round _ handler _ supplies _ leads ih =>
      obtain ⟨log, now, carried, rides⟩ := ih
      cases rides with
      | within same sent =>
          subst same
          obtain ⟨next, given, talked, rfl⟩ := Negotiation.stretch_of_leads leads
          have emitting := Emitting.carryOn (rfl : Handler.carryOn handler supplies = _) talked
          exact ⟨_, _, carried.move standing empty emitting (alone_round supplies sent rfl),
            .round sent talked⟩
  | resume _ ih =>
      obtain ⟨log, now, carried, rides⟩ := ih
      cases rides with
      | tookOver same sent => exact ⟨log, now, carried, .entering same (sent trivial)⟩

theorem final_initialises {variant : Variant} {supplies began : Supplies κ}
    (initialised : Initialises (fresh variant) supplies start began) : Final start := by
  intro mode stage
  rcases refused_or_primed initialised with refused | ⟨_, primed⟩
  · simp [refused.stage] at stage
  · simp [primed.stage] at stage

/--
However a handler is called, what it emits conforms to its role. Under a driver, what is queued is
never more than one message, each frame lies within one of the messages that the handler has said,
and no frame is longer than the longest message.
-/
theorem emission_conforms {variant : Variant} {supplies began : Supplies κ}
    (initialised : Initialises (fresh variant) supplies start began) :
    (∀ log emitted now, Emits κ start log emitted now →
      Conforms start log emitted now.handler) ∧
    ∀ frames phase, Driven κ start frames phase →
      ∃ log now, Emits κ start log frames.flatten now ∧ Rides now phase ∧
        (now.handler.outbox.bytes = [] ∨
          Cut (spoken log) frames.flatten now.handler.outbox.bytes) ∧
        ∀ before frame after, frames = before ++ frame :: after →
          frame.length ≤ 2050 ∧ Cut (spoken log) before.flatten frame := by
  refine ⟨fun log emitted now emits => emits.conforms initialised, ?_⟩
  intro frames phase driven
  obtain ⟨log, now, carried, rides⟩ := driven.carried (standing_initialises initialised)
    (outbox_initialises initialised) (final_initialises initialised)
  refine ⟨log, now, carried.emits, rides, carried.single, ?_⟩
  intro before frame after split
  exact ⟨(carried.apart split).length_le, carried.apart split⟩

theorem emission_conforms_alice :
    ∃ log now frames, frames ≠ [] ∧ Emits MemoryKeys alice.handler log frames.flatten now ∧
      Conforms alice.handler log frames.flatten now.handler ∧
      ∀ before frame after, frames = before ++ frame :: after →
        frame.length ≤ 2050 ∧ Cut (spoken log) before.flatten frame := by
  -- The blob is too small for the hello, so what is sent is its first part.
  have loop : Driven MemoryKeys alice.handler [] (.calling
      ⟨alice.handler, ["p9sk1"], .produce, Blob.blank 64⟩) := .blobs ["p9sk1"] 64
  obtain ⟨phase, leads⟩ := Negotiation.exists_leads_closeTurn
    ⟨alice.handler, ["p9sk1"], .produce, Blob.blank 64⟩
    (Negotiation.turnOf ⟨alice.handler, ["p9sk1"], .produce, Blob.blank 64⟩ aliceSupplies)
  have driven := loop.call aliceSupplies leads
  obtain ⟨conforms, drivenConforms⟩ := emission_conforms initialises_alice
  obtain ⟨log, now, emits, _, _, apart⟩ := drivenConforms _ _ driven
  refine ⟨log, now, _, ?_, emits, conforms _ _ _ emits, apart⟩
  decide +kernel

end SharedKey

end Parley
