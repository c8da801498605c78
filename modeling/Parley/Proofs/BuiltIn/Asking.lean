import Parley.BuiltIn
import Parley.Proofs.SharedKey.Twins

/-!
What dialogues ask for. No handler reads from a channel without asking for at least one byte, so a
read that is answered brings something or tells that the peer has closed.
-/

namespace Parley

inductive Dialogue.Asks {α : Type} : Dialogue α → Prop
  | done (value : α) : Asks (.done value)
  | write {bytes : Bytes} {next : Except TransportError Unit → Dialogue α}
      (later : ∀ answer, Asks (next answer)) : Asks (.write bytes next)
  | read {limit : Nat} {next : Except TransportError Bytes → Dialogue α} (positive : 0 < limit)
      (later : ∀ answer, Asks (next answer)) : Asks (.read limit next)

theorem Dialogue.Asks.bind {α β : Type} {dialogue : Dialogue α} {further : α → Dialogue β}
    (asks : dialogue.Asks) (others : ∀ value, (further value).Asks) :
    (dialogue.bind further).Asks := by
  induction asks with
  | done value => exact others value
  | write _ ih => exact .write ih
  | read positive _ ih => exact .read positive ih

namespace Frame

theorem asks_send (payload : Bytes) : (send payload).Asks := by
  rw [send]
  split
  · exact .done _
  · refine .write fun answer => ?_
    split <;> exact .done _

theorem asks_gather (bound missing : Nat) (gathered : Bytes) :
    (gather bound missing gathered).Asks := by
  induction bound generalizing missing gathered with
  | zero => exact .done _
  | succ bound ih =>
      rw [gather]
      split
      · exact .done _
      · refine .read (by omega) fun answer => ?_
        split
        · exact .done _
        · exact .done _
        · exact ih _ _

theorem asks_receive (limit : Nat) : (receive limit).Asks := by
  refine (asks_gather _ _ _).bind fun header => ?_
  split
  · exact .done _
  · dsimp only
    split
    · exact .done _
    · exact asks_gather _ _ _

end Frame

namespace Handler

variable {ω σ τ : Type} [HasFace σ] [HasFace τ] [Handler ω σ] [Handler ω τ]

/-- The takeovers of a type of handlers ask for something with every read. -/
structure Asking (ω σ : Type) [HasFace σ] [Handler ω σ] : Prop where
  takeOver (handler : σ) (surroundings : ω) : (takeOver handler surroundings).dialogue.Asks
  carryOn (handler : σ) (surroundings : ω) : (carryOn handler surroundings).dialogue.Asks

theorem Asking.sum (first : Asking ω σ) (second : Asking ω τ) : Asking ω (σ ⊕ τ) := by
  constructor
  · rintro (handler | handler) surroundings
    · exact (first.takeOver handler surroundings).bind fun _ => .done _
    · exact (second.takeOver handler surroundings).bind fun _ => .done _
  · rintro (handler | handler) surroundings
    · exact (first.carryOn handler surroundings).bind fun _ => .done _
    · exact (second.carryOn handler surroundings).bind fun _ => .done _

end Handler

theorem Envelope.asking (ω : Type) : Handler.Asking ω Envelope := by
  have asks (handler : Envelope) (surroundings : ω) :
      (handler.takeOver surroundings).dialogue.Asks := by
    rw [takeOver]
    split <;> exact .done _
  exact ⟨asks, asks⟩

namespace SharedKey

theorem asks_obey (handler : SharedKey) (mode : Mode) : (handler.obey mode).Asks := by
  cases mode with
  | needData =>
      refine (Frame.asks_receive _).bind fun received => ?_
      split <;> exact .done _
  | noMoreData =>
      rw [obey]
      split <;> exact .done _
  | _ => exact .done _

theorem asks_closeRound {κ : Type} (handler : SharedKey) (turn : Turn (Supplies κ) SharedKey) :
    (handler.closeRound turn).Asks := by
  rw [closeRound]
  dsimp only
  split
  · exact .done _
  · split
    · refine (Frame.asks_send _).bind fun answer => ?_
      split
      · exact .done _
      · exact asks_obey _ _
    · exact asks_obey _ _

variable {κ : Type} [KeyStore κ]

theorem asking : Handler.Asking (Supplies κ) SharedKey := by
  constructor
  · intro handler supplies
    have called : Handler.takeOver handler supplies = handler.takeOver supplies := rfl
    rw [called, takeOver]
    dsimp only
    split <;> exact .done _
  · intro handler supplies
    have called : Handler.carryOn handler supplies = handler.carryOn supplies := rfl
    rw [called, carryOn_eq]
    exact asks_closeRound handler _

end SharedKey

theorem BuiltIn.asking {κ : Type} [KeyStore κ] : Handler.Asking (Supplies κ) BuiltIn :=
  SharedKey.asking.sum (Envelope.asking _)

end Parley
