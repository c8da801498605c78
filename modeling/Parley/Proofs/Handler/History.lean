import Parley.Handler.Takeover
import Parley.Message.Inbox
import Parley.Proofs.Channel.Frame

/-!
Histories of handlers: one initialisation and then any calls in any order, with anything in their
blobs and on their channels. A history keeps the bytes that the handler has taken from its peer
and the answers that it has given.
-/

namespace Parley

/-- The bytes that were read off a blob by the time it has become another one. -/
def Blob.given (before after : Blob) : Bytes :=
  (before.contents.drop before.position).take (before.unread - after.unread)

theorem Blob.given_self (blob : Blob) : blob.given blob = [] := by
  rw [Blob.given, Nat.sub_self, List.take_zero]

theorem Inbox.given_absorb (inbox : Inbox) (blob : Blob) :
    blob.given (inbox.absorb blob).2 = blob.contents.drop blob.position := by
  rw [Blob.given, Inbox.unread_absorb]
  apply List.take_of_length_le
  rw [List.length_drop, Blob.length_contents, Blob.unread]
  exact Nat.le_refl _

section

variable {ω σ : Type} [HasFace σ] [Handler ω σ]

inductive Initialises (handler : σ) (surroundings : ω) : σ → ω → Prop
  | live (identity : Option Identity) (role : Role) :
      Initialises handler surroundings
        (Handler.init handler identity role surroundings).handler
        (Handler.init handler identity role surroundings).surroundings
  | declared (attributes : Attributes) :
      Initialises handler surroundings
        (Handler.initFrom handler attributes surroundings).handler
        (Handler.initFrom handler attributes surroundings).surroundings

/--
One call: what the handler takes from its peer, and its answer. There is no answer if the call is
given up while a read does not return.
-/
inductive Contact : σ → ω → Bytes → Option Answer → σ → ω → Prop
  | produce (handler : σ) (surroundings : ω) (blob : Blob) :
      Contact handler surroundings []
        (some (Handler.produce handler blob surroundings).answer)
        (Handler.produce handler blob surroundings).handler
        (Handler.produce handler blob surroundings).surroundings
  | consume (handler : σ) (surroundings : ω) (blob : Blob) :
      Contact handler surroundings
        (blob.given (Handler.consume handler blob surroundings).blob)
        (some (Handler.consume handler blob surroundings).answer)
        (Handler.consume handler blob surroundings).handler
        (Handler.consume handler blob surroundings).surroundings
  | process {handler : σ} {surroundings : ω} {script : Script} {bound : Nat}
      {takeover : Takeover ω σ}
      (ran : Takeover.run bound handler surroundings script = some takeover) :
      Contact handler surroundings (Frame.payloads (script.given takeover.script)).flatten
        takeover.answer takeover.handler takeover.surroundings

/-- Any number of calls. Others may use and change the surroundings in between. -/
inductive History (start : σ) (early : ω) : Bytes → List Answer → σ → ω → Prop
  | begin : History start early [] [] start early
  | contact {taken more : Bytes} {answers : List Answer} {answer : Option Answer}
      {handler next : σ} {now later : ω} :
      History start early taken answers handler now →
      Contact handler now more answer next later →
      History start early (taken ++ more) (answers ++ answer.toList) next later
  | elsewhere {taken : Bytes} {answers : List Answer} {handler : σ} {now : ω} (later : ω) :
      History start early taken answers handler now →
      History start early taken answers handler later

/--
Calls on fresh blobs of a capacity: some bring a message to the handler, and those without a message
let the handler fill the blob.
-/
def correspond (capacity : Nat) (handler : σ) (surroundings : ω) :
    List (Option Message) → List Answer × σ × ω
  | [] => ([], handler, surroundings)
  | message :: rest =>
    let blank := Blob.blank capacity
    let turn : Turn ω σ :=
      match message with
      | none => Handler.produce handler blank surroundings
      | some message =>
        Handler.consume handler (blank.load (message.encode.toOption.getD [])) surroundings
    let (answers, result) := correspond capacity turn.handler turn.surroundings rest
    (turn.answer :: answers, result)

theorem history_correspond {start handler : σ} {early surroundings : ω} {taken : Bytes}
    {answers : List Answer} (history : History start early taken answers handler surroundings)
    (capacity : Nat) (messages : List (Option Message)) :
    ∃ taken, History start early taken
      (answers ++ (correspond capacity handler surroundings messages).1)
      (correspond capacity handler surroundings messages).2.1
      (correspond capacity handler surroundings messages).2.2 := by
  induction messages generalizing handler surroundings taken answers with
  | nil =>
      rw [correspond, List.append_nil]
      exact ⟨taken, history⟩
  | cons message rest ih =>
      cases message with
      | none =>
          obtain ⟨later, longer⟩ := ih (history.contact (.produce _ _ (Blob.blank capacity)))
          refine ⟨later, ?_⟩
          rwa [Option.toList_some, List.append_assoc] at longer
      | some message =>
          obtain ⟨later, longer⟩ := ih (history.contact
            (.consume _ _ ((Blob.blank capacity).load (message.encode.toOption.getD []))))
          refine ⟨later, ?_⟩
          rwa [Option.toList_some, List.append_assoc] at longer

end

namespace Takeover

variable {ω σ : Type} [HasFace σ] [Handler ω σ]

/-- What holds along the stretches of a takeover holds where the takeover ends. -/
theorem follow_induction (Along : Stretch ω σ → Script → Prop) (End : Takeover ω σ → Prop)
    (silent : ∀ stretch script later, Along stretch script →
      script.play stretch.dialogue = (none, later) →
      End ⟨none, stretch.handler, stretch.surroundings, later⟩)
    (answered : ∀ stretch script handler answer later, Along stretch script →
      script.play stretch.dialogue = (some (handler, some answer), later) →
      End ⟨some answer, handler, stretch.surroundings, later⟩)
    (carried : ∀ stretch script handler later, Along stretch script →
      script.play stretch.dialogue = (some (handler, none), later) →
      Along (Handler.carryOn handler stretch.surroundings) later)
    {bound : Nat} {stretch : Stretch ω σ} {script : Script} {takeover : Takeover ω σ}
    (along : Along stretch script) (ran : follow bound stretch script = some takeover) :
    End takeover := by
  induction bound generalizing stretch script with
  | zero => simp [follow] at ran
  | succ bound ih =>
      rw [follow] at ran
      rcases played : script.play stretch.dialogue with ⟨_ | ⟨handler, _ | answer⟩, later⟩
      · simp only [played, Option.some.injEq] at ran
        exact ran ▸ silent stretch script later along played
      · simp only [played] at ran
        exact ih (carried stretch script handler later along played) ran
      · simp only [played, Option.some.injEq] at ran
        exact ran ▸ answered stretch script handler answer later along played

end Takeover

end Parley
