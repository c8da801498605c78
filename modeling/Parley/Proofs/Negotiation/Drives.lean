import Parley.Proofs.Handler.Frames
import Parley.Proofs.Negotiation.Strides
import Parley.Proofs.Negotiation.Takeover

/-!
Sides that drive a handler. By either route a side calls its handler, says what the handler has
produced, and obeys the mode: it hears what it is to be given next, calls the handler again, or
ends.
-/

namespace Parley

open Conversation

/-- What stays the same while a side drives one of its handlers. -/
structure Drive (σ : Type) where
  negotiation : Negotiation σ
  route : Route
  leased : Bool
  chain : List String
  capacity : Nat

namespace Drive

open Negotiation (Level Turned advance advance_calling closeTurn conclude pursue turnOf)

variable {κ σ : Type} [HasFace σ]

/-- A side is about to make a call of a blob loop, or the round of a takeover beside it. -/
inductive Calls (drive : Drive σ) (inject : SharedKey → σ) (loop : BlobLoop σ) (keys : κ)
    (side : Side κ σ) : Prop
  | blobs (route : drive.route = .blobs)
      (stands : side.At drive.negotiation keys drive.leased (.ready (.calling loop)))
  | direct {first : SharedKey} (route : drive.route = .direct) (level : Level inject first loop)
      (stands : side.At drive.negotiation keys drive.leased
        (.ready (.takingOver (inject first) false)))

inductive Obeys (drive : Drive σ) (inject : SharedKey → σ) (loop : BlobLoop σ) (mode : Mode)
    (keys : κ) (side : Side κ σ) : Prop
  | blobs (route : drive.route = .blobs)
      (stands : side.At drive.negotiation keys drive.leased
        (.talking (.done (.obeying loop mode))))
  | direct {handler : SharedKey} (route : drive.route = .direct)
      (turned : Turned inject handler loop mode)
      (stands : side.At drive.negotiation keys drive.leased
        (.talking ((SharedKey.obey handler mode).bind fun result => .done (pursue inject result))))

variable [KeyStore κ] [Handler (Supplies κ) σ] {inject : SharedKey → σ} {drive : Drive σ}
  {loop : BlobLoop σ} {keys : κ} {side : Side κ σ} {nonces after : NonceSupply} {now : Nat}
  {turn : Turn (Supplies κ) σ} {mode : Mode} {goal : Side κ σ → Prop} {rest frame : Bytes}

/-! ## Calls -/

theorem advance_takingOver (carries : Handler.Carries (Supplies κ) inject)
    (negotiation : Negotiation σ) (handler : SharedKey) (supplies : Supplies κ) :
    { negotiation with phase := .takingOver (inject handler) false }.advance supplies =
      ⟨negotiation.registry, (handler.round supplies).surroundings,
        .talk ((handler.closeRound (handler.round supplies)).bind fun result =>
          .done (pursue inject result))⟩ := by
  simp only [advance, Negotiation.takeOver, Bool.false_eq_true, if_false, carries.carryOn,
    Handler.mapStretch, Dialogue.bind_bind]
  refine congrArg (Advance.mk _ _) (congrArg Action.talk (congrArg (Dialogue.bind _) (funext ?_)))
  rintro ⟨handler, _ | fault | mode⟩ <;> rfl

theorem Calls.quiet_at (carries : Handler.Carries (Supplies κ) inject)
    (shows : ∀ handler, face (inject handler) = face handler)
    (calls : drive.Calls inject loop keys side) (ran : turnOf loop ⟨nonces, keys⟩ = turn)
    (answered : turn.answer = .ok mode) (silent : loop.call = .consume ∨ turn.blob.contents = []) :
    ∃ next, QuietAt (Side.Acts now) nonces side turn.surroundings.nonces next ∧
      drive.Obeys inject (loop.after turn) mode turn.surroundings.keys next := by
  have nothing : ¬ (loop.call = .produce ∧ (!turn.blob.isEmpty) = true) := by
    rw [Blob.isEmpty_eq]
    rintro ⟨produces, filled⟩
    rcases silent with consumes | empty
    · cases produces.symm.trans consumes
    · simp [empty] at filled
  cases calls with
  | blobs route stands =>
      have calling : { drive.negotiation with phase := .calling loop }.phase = .calling loop := rfl
      have advance := advance_calling (⟨nonces, keys⟩ : Supplies κ) calling
      rw [ran, closeTurn, answered] at advance
      dsimp only at advance
      rw [if_neg nothing] at advance
      exact ⟨_, stands.quiet_at advance, .blobs route ⟨rfl, rfl, stands.held, stands.leased, rfl⟩⟩
  | @direct first route level stands =>
      have same := level.round carries shows (⟨nonces, keys⟩ : Supplies κ)
      have advance := advance_takingOver carries drive.negotiation first ⟨nonces, keys⟩
      rw [ran] at same
      have unsent := mt (same.sends_iff level).mpr nothing
      have own := same.answer.symm.trans answered
      rw [SharedKey.closeRound, own] at advance
      dsimp only at advance
      rw [if_neg unsent, ← same.surroundings] at advance
      exact ⟨_, stands.quiet_at advance,
        .direct route (same.turned mode own) ⟨rfl, rfl, stands.held, stands.leased, rfl⟩⟩

theorem Calls.speaks (carries : Handler.Carries (Supplies κ) inject)
    (shows : ∀ handler, face (inject handler) = face handler)
    (calls : drive.Calls inject loop keys side) (ran : turnOf loop ⟨nonces, keys⟩ = turn)
    (answered : turn.answer = .ok mode) (produces : loop.call = .produce)
    (contents : turn.blob.contents = frame) (someFrame : frame ≠ [])
    (short : frame.length ≤ Frame.longestPayload)
    (onward : ∀ side, drive.Obeys inject (loop.after turn) mode turn.surroundings.keys side →
      Speaks (Side.Acts now) goal after rest turn.surroundings.nonces side) :
    Speaks (Side.Acts now) goal after (Frame.encode frame ++ rest) nonces side := by
  have something : loop.call = .produce ∧ (!turn.blob.isEmpty) = true := by
    refine ⟨produces, ?_⟩
    simp [Blob.isEmpty_eq, contents, someFrame]
  have someBytes : Frame.encode frame ++ rest ≠ [] :=
    List.append_ne_nil_of_left_ne_nil (Frame.encode_ne_nil frame) rest
  cases calls with
  | blobs route stands =>
      have calling : { drive.negotiation with phase := .calling loop }.phase = .calling loop := rfl
      have advance := advance_calling (⟨nonces, keys⟩ : Supplies κ) calling
      rw [ran, closeTurn, answered] at advance
      dsimp only at advance
      rw [if_pos something, contents] at advance
      refine .quiet someBytes (stands.quiet_at advance) ?_
      exact Side.At.speaks_send ⟨rfl, rfl, stands.held, stands.leased, rfl⟩ short
        fun side stands => onward side (.blobs route stands)
  | @direct first route level stands =>
      have same := level.round carries shows (⟨nonces, keys⟩ : Supplies κ)
      have advance := advance_takingOver carries drive.negotiation first ⟨nonces, keys⟩
      rw [ran] at same
      have sent := (same.sends_iff level).mp something
      have own := same.answer.symm.trans answered
      have producing : first.consuming = false := by
        simp only [Bool.and_eq_true, Bool.not_eq_true'] at sent
        exact sent.1
      rw [SharedKey.closeRound, own] at advance
      dsimp only at advance
      rw [if_pos sent, same.contents producing, contents, Dialogue.bind_bind,
        ← same.surroundings] at advance
      refine .quiet someBytes (stands.quiet_at advance) ?_
      exact Side.At.speaks_send ⟨rfl, rfl, stands.held, stands.leased, rfl⟩ short
        fun side stands => onward side (.direct route (same.turned mode own) stands)

/-! ## Modes -/

section

omit [KeyStore κ]

theorem Obeys.leads_continue (obeys : drive.Obeys inject loop .continue keys side)
    (onward : ∀ side, drive.Calls inject loop keys side → Leads (Side.Acts now) goal side) :
    Leads (Side.Acts now) goal side := by
  cases obeys with
  | blobs route stands =>
      exact stands.leads_done fun _ stands => stands.leads_goOn _ (fun _ => rfl)
        fun side stands => onward side (.blobs route stands)
  | direct route turned stands =>
      exact Side.At.leads_done stands
        fun side stands => onward side (.direct route (turned.level rfl) stands)

theorem Obeys.leads_pendingData (obeys : drive.Obeys inject loop .pendingData keys side)
    (onward : ∀ side, drive.Calls inject { loop with call := .produce } keys side →
      Leads (Side.Acts now) goal side) : Leads (Side.Acts now) goal side := by
  cases obeys with
  | blobs route stands =>
      exact stands.leads_done fun _ stands => stands.leads_goOn _ (fun _ => rfl)
        fun side stands => onward side (.blobs route stands)
  | direct route turned stands =>
      exact Side.At.leads_done stands
        fun side stands => onward side (.direct route (turned.level rfl).produces stands)

theorem Obeys.hears (obeys : drive.Obeys inject loop .needData keys side)
    (short : frame.length ≤ loop.blob.capacity) (small : frame.length ≤ Frame.longestPayload)
    (onward : ∀ side, Leads (Side.Acts now) (drive.Calls inject
        { loop with blob := loop.blob.load frame, call := .consume } keys) side →
      Hears (Side.Acts now) goal rest side) :
    Hears (Side.Acts now) goal (Frame.encode frame ++ rest) side := by
  have someBytes : Frame.encode frame ++ rest ≠ [] :=
    List.append_ne_nil_of_left_ne_nil (Frame.encode_ne_nil frame) rest
  cases obeys with
  | blobs route stands =>
      refine Leads.hears someBytes (stands.leads_done fun _ stands =>
        stands.leads_talk (fun _ => rfl) fun _ stands => .here (stands.hears_receive short small
          fun side stands => onward side (stands.leads_done fun _ stands => .here ?_)))
      exact .blobs route stands
  | @direct handler route turned stands =>
      have level := turned.level rfl
      have capacity : handler.desk.capacity = loop.blob.capacity := level.desk.trans level.blob.symm
      rw [SharedKey.obey, Dialogue.bind_bind, capacity] at stands
      refine stands.hears_receive short small
        fun side stands => onward side (Side.At.leads_done stands fun _ stands => .here ?_)
      exact .direct route (level.load frame) stands

theorem Obeys.over_success {credential : Credential}
    (obeys : drive.Obeys inject loop .success keys side)
    (shown : (face loop.handler).credential = some credential) :
    Over (Side.Acts now) (fun last => last.result? =
      some (.ok (.success (face loop.handler).protocol credential))) side := by
  cases obeys with
  | blobs route stands =>
      refine Leads.over (stands.leads_done fun _ stands => stands.leads_goOn _ (fun _ => rfl)
        fun _ stands => stands.leads_goOn (conclude loop.handler .success) (fun _ => rfl)
        fun _ stands => .here ?_)
      rw [conclude, Outcome.conclude, shown] at stands
      exact stands.over_stop
  | @direct handler route turned stands =>
      refine Leads.over (Side.At.leads_done stands fun _ stands =>
        stands.leads_release (fun _ => rfl) fun _ stands =>
        stands.leads_goOn (conclude (inject handler) .success) (fun _ => rfl)
        fun _ stands => .here ?_)
      rw [conclude, Outcome.conclude, turned.shown, shown] at stands
      exact stands.over_stop

theorem Obeys.leads_stopped (obeys : drive.Obeys inject loop .delegated keys side)
    (route : drive.route = .blobs)
    (onward : ∀ side, side.At drive.negotiation keys drive.leased
      (.ready (.stopped loop.handler loop.chain .delegated)) → Leads (Side.Acts now) goal side) :
    Leads (Side.Acts now) goal side := by
  cases obeys with
  | blobs _ stands =>
      exact stands.leads_done fun _ stands => stands.leads_goOn _ (fun _ => rfl) onward
  | direct other _ _ => cases route.symm.trans other

end

end Drive

end Parley
