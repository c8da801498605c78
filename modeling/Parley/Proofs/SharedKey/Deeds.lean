import Parley.Proofs.Channel.Dialogue
import Parley.Proofs.Message.Blobs
import Parley.Proofs.Message.RoundTrip
import Parley.Proofs.SharedKey.Session

/-!
What shared-key handlers do in the open. A handler is watched from outside: by the message that
leaves its inbox, the nonce that it draws and the message that enters its outbox, also in the
middle of a takeover. Nothing is assumed of the blobs, the channel or the supplies.
-/

namespace Parley

inductive Deed where
  | drew (nonce : Nonce)
  /-- The message came from the peer and was handled. -/
  | heard (message : Message)
  /-- The message was put into the queue of what is sent. -/
  | said (message : Message)
  deriving DecidableEq

def NonceSupply.given (before after : NonceSupply) : Option Nonce :=
  if after.drawn = before.drawn then none else before.next.1

def Message.ofBytes? (bytes : Bytes) : Option Message :=
  match Inbox.next ⟨bytes⟩ with
  | .ok (some (message, _)) => some message
  | _ => none

theorem Message.ofBytes?_encode {message : Message} {bytes : Bytes}
    (encoded : message.encode = .ok bytes) : ofBytes? bytes = some message := by
  have read := Inbox.next_encode encoded []
  rw [List.append_nil] at read
  rw [ofBytes?, read]

namespace SharedKey

variable {κ : Type}

/-- The message that left the inbox while some bytes came in. -/
def heard (before after : SharedKey) (taken : Bytes) : Option Message :=
  let stored := before.inbox.bytes ++ taken
  Message.ofBytes? (stored.take (stored.length - after.inbox.bytes.length))

def said (before after : SharedKey) (given : Bytes) : Option Message :=
  Message.ofBytes? ((given ++ after.outbox.bytes).drop before.outbox.bytes.length)

def deeds (before after : SharedKey) (early late : Supplies κ) (taken given : Bytes) : List Deed :=
  (heard before after taken).toList.map .heard ++
    (early.nonces.given late.nonces).toList.map .drew ++ (said before after given).toList.map .said

section

variable {before after : SharedKey} {taken given bytes : Bytes} {message : Message}

theorem heard_of_kept (kept : after.inbox.bytes = before.inbox.bytes ++ taken) :
    heard before after taken = none := by
  rw [heard, kept, Nat.sub_self]
  rfl

theorem heard_of_next
    (next : Inbox.next ⟨before.inbox.bytes ++ taken⟩ = .ok (some (message, after.inbox))) :
    heard before after taken = some message := by
  obtain ⟨high, low, body, stored, length, fits, decoded⟩ := Inbox.next_eq_some_iff.mp next
  have used : (before.inbox.bytes ++ taken).take
      ((before.inbox.bytes ++ taken).length - after.inbox.bytes.length) =
        high :: low :: (body ++ []) := by
    rw [stored, ← List.cons_append, ← List.cons_append, List.length_append,
      Nat.add_sub_cancel, List.take_left, List.append_nil]
  rw [heard, used, Message.ofBytes?,
    Inbox.next_eq_some_iff.mpr ⟨high, low, body, rfl, length, fits, decoded⟩]

theorem said_of_kept (kept : given ++ after.outbox.bytes = before.outbox.bytes) :
    said before after given = none := by
  rw [said, kept, List.drop_length]
  rfl

theorem said_of_queued (queued : given ++ after.outbox.bytes = before.outbox.bytes ++ bytes)
    (encoded : message.encode = .ok bytes) : said before after given = some message := by
  rw [said, queued, List.drop_left, Message.ofBytes?_encode encoded]

end

theorem given_self (supply : NonceSupply) : supply.given supply = none := by
  rw [NonceSupply.given, if_pos rfl]

theorem given_drawNonce {supplies later : Supplies κ} {own : Nonce}
    (drawn : supplies.drawNonce = (some own, later)) :
    supplies.nonces.given later.nonces = some own := by
  simp only [Supplies.drawNonce, NonceSupply.next, Prod.mk.injEq] at drawn
  obtain ⟨ownEq, rfl⟩ := drawn
  rw [NonceSupply.given, if_neg (Nat.succ_ne_self _)]
  exact ownEq

theorem deeds_of_kept {before after : SharedKey} {early late : Supplies κ} {taken given : Bytes}
    (inbox : after.inbox.bytes = before.inbox.bytes ++ taken) (nonces : late.nonces = early.nonces)
    (outbox : given ++ after.outbox.bytes = before.outbox.bytes) :
    deeds before after early late taken given = [] := by
  rw [deeds, heard_of_kept inbox, nonces, given_self, said_of_kept outbox]
  rfl

theorem deeds_entered (handler : SharedKey) (lifecycle : Lifecycle) (desk : Blob)
    (supplies : Supplies κ) :
    deeds handler { handler with lifecycle, desk } supplies supplies [] [] = [] :=
  deeds_of_kept (List.append_nil _).symm rfl rfl

/-- A handler as its drivers find it: between calls, or between the rounds of a takeover. -/
structure Posture where
  handler : SharedKey
  engaged : Bool := false

def offered (before after : SharedKey) : Bytes :=
  if before.consuming then [] else after.desk.contents

/-- What one move of a handler does. Anything may be in a blob, and a channel may answer anything. -/
inductive Move (κ : Type) [KeyStore κ] : Posture → List Deed → Posture → Prop
  | produce {handler : SharedKey} {supplies : Supplies κ} {blob : Blob}
      {turn : Turn (Supplies κ) SharedKey} (called : Handler.produce handler blob supplies = turn) :
      Move κ ⟨handler, false⟩
        (deeds handler turn.handler supplies turn.surroundings [] (blob.gained turn.blob))
        ⟨turn.handler, false⟩
  | consume {handler : SharedKey} {supplies : Supplies κ} {blob : Blob}
      {turn : Turn (Supplies κ) SharedKey} (called : Handler.consume handler blob supplies = turn) :
      Move κ ⟨handler, false⟩
        (deeds handler turn.handler supplies turn.surroundings (blob.given turn.blob) [])
        ⟨turn.handler, false⟩
  | takeOver {handler next : SharedKey} {supplies : Supplies κ} {answer : Option Answer}
      {stretch : Stretch (Supplies κ) SharedKey}
      (begun : Handler.takeOver handler supplies = stretch)
      (leads : stretch.dialogue.Leads (next, answer)) :
      Move κ ⟨handler, false⟩
        (deeds handler stretch.handler supplies stretch.surroundings [] [])
        ⟨next, answer.isNone⟩
  | carryOn {handler next : SharedKey} {supplies : Supplies κ} {answer : Option Answer}
      {stretch : Stretch (Supplies κ) SharedKey}
      (begun : Handler.carryOn handler supplies = stretch)
      (leads : stretch.dialogue.Leads (next, answer)) :
      Move κ ⟨handler, true⟩
        (deeds handler stretch.handler supplies stretch.surroundings handler.inHand
          (handler.offered stretch.handler))
        ⟨next, answer.isNone⟩
  /-- A takeover is given up while it waits for its channel. -/
  | givenUp {handler : SharedKey} {supplies : Supplies κ}
      {stretch : Stretch (Supplies κ) SharedKey}
      (begun : Handler.carryOn handler supplies = stretch)
      (waits : ∀ value, stretch.dialogue ≠ .done value) :
      Move κ ⟨handler, true⟩
        (deeds handler stretch.handler supplies stretch.surroundings handler.inHand
          (handler.offered stretch.handler))
        ⟨stretch.handler, false⟩

/-- Any number of moves in a row, with all that was done. -/
inductive Life (κ : Type) [KeyStore κ] (start : SharedKey) : List Deed → Posture → Prop
  | begin : Life κ start [] ⟨start, false⟩
  | move {early late : List Deed} {now next : Posture} (life : Life κ start early now)
      (move : Move κ now late next) : Life κ start (early ++ late) next

variable [KeyStore κ]

theorem life_run {start handler : SharedKey} {supplies : Supplies κ} {script : Script} {bound : Nat}
    {takeover : Takeover (Supplies κ) SharedKey} {early : List Deed}
    (life : Life κ start early ⟨handler, false⟩)
    (ran : Takeover.run bound handler supplies script = some takeover) :
    ∃ all, Life κ start all ⟨takeover.handler, false⟩ := by
  rw [Takeover.run] at ran
  cases bound with
  | zero => cases ran
  | succ bound =>
      rw [Takeover.follow] at ran
      rcases played : script.play (Handler.takeOver handler supplies).dialogue with
        ⟨_ | ⟨next, _ | answer⟩, later⟩
      · have ends : ∃ value, (Handler.takeOver handler supplies).dialogue = .done value := by
          have opening : Handler.takeOver handler supplies = handler.takeOver supplies := rfl
          rw [opening, takeOver]
          rcases handler.lifecycle.enter .takeover with ⟨lifecycle, _ | answer⟩ <;> exact ⟨_, rfl⟩
        obtain ⟨value, done⟩ := ends
        rw [done, Script.play] at played
        cases played
      · simp only [played] at ran
        have opened := life.move (.takeOver rfl (Script.leads_of_play played))
        refine Takeover.follow_induction
          (fun stretch _ => ∃ handler supplies deeds, Handler.carryOn handler supplies = stretch ∧
            Life κ start deeds ⟨handler, true⟩)
          (fun takeover => ∃ all, Life κ start all ⟨takeover.handler, false⟩)
          ?_ ?_ ?_ ⟨next, _, _, rfl, opened⟩ ran
        · rintro stretch script later ⟨handler, supplies, deeds, begun, life⟩ played
          refine ⟨_, life.move (.givenUp begun ?_)⟩
          intro value done
          rw [done, Script.play] at played
          cases played
        · rintro stretch script next answer later ⟨handler, supplies, deeds, begun, life⟩ played
          exact ⟨_, life.move (.carryOn begun (Script.leads_of_play played))⟩
        · rintro stretch script next later ⟨handler, supplies, deeds, begun, life⟩ played
          exact ⟨next, _, _, rfl, life.move (.carryOn begun (Script.leads_of_play played))⟩
      · simp only [played, Option.some.injEq] at ran
        subst ran
        exact ⟨_, life.move (.takeOver rfl (Script.leads_of_play played))⟩

theorem life_history {start handler : SharedKey} {began now : Supplies κ} {taken : Bytes}
    {answers : List Answer} (history : History start began taken answers handler now) :
    ∃ all, Life κ start all ⟨handler, false⟩ := by
  induction history with
  | begin => exact ⟨[], .begin⟩
  | elsewhere _ _ ih => exact ih
  | contact _ contact ih =>
      obtain ⟨early, life⟩ := ih
      cases contact with
      | produce blob => exact ⟨_, life.move (.produce rfl)⟩
      | consume blob => exact ⟨_, life.move (.consume rfl)⟩
      | process ran => exact life_run life ran

end SharedKey

end Parley
