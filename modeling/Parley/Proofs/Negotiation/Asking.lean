import Parley.Proofs.BuiltIn.Asking
import Parley.Proofs.Negotiation.Abreast

/-! Negotiations, like the handlers that they drive, never read without asking for something. -/

namespace Parley

variable {ω σ : Type} [HasFace σ] [Handler ω σ]

/-- An action with nothing in it that reads without asking for something. -/
def Action.Asks {α : Type} (action : Action α) : Prop :=
  ∀ dialogue, action = .talk dialogue → dialogue.Asks

namespace Negotiation

omit [HasFace σ] [Handler ω σ] in
theorem asks_goOn (phase : Phase σ) : (goOn phase).Asks := by
  rintro _ ⟨⟩
  exact .done phase

theorem asks_enter (negotiation : Negotiation σ) (next : σ → Phase σ) (surroundings : ω) :
    (negotiation.enter next surroundings).action.Asks := by
  rw [enter]
  split <;> exact asks_goOn _

theorem asks_follow (negotiation : Negotiation σ) (handler : σ) (chain : List String)
    (surroundings : ω) : (negotiation.follow handler chain surroundings).action.Asks := by
  rw [follow]
  split
  · exact asks_goOn _
  · dsimp only
    split
    · exact asks_goOn _
    · split <;> exact asks_goOn _

omit [HasFace σ] [Handler ω σ] in
theorem asks_closeTurn (loop : BlobLoop σ) (turn : Turn ω σ) : (closeTurn loop turn).Asks := by
  rw [closeTurn]
  split
  · exact asks_goOn _
  · split
    · rintro _ ⟨⟩
      refine (Frame.asks_send _).bind fun answer => ?_
      split <;> exact .done _
    · exact asks_goOn _

omit [HasFace σ] [Handler ω σ] in
theorem asks_obey (loop : BlobLoop σ) (mode : Mode) : (obey loop mode).Asks := by
  cases mode with
  | needData =>
      rintro _ ⟨⟩
      refine (Frame.asks_receive _).bind fun received => ?_
      split <;> exact .done _
  | wait seconds => exact nofun
  | _ => exact asks_goOn _

theorem asks_takeOver (asking : Handler.Asking ω σ) (handler : σ) (fresh : Bool)
    (surroundings : ω) : (takeOver handler fresh surroundings).2.Asks := by
  rw [takeOver]
  rintro _ ⟨⟩
  refine Dialogue.Asks.bind ?_ fun result => ?_
  · split
    · exact asking.takeOver _ _
    · exact asking.carryOn _ _
  · split <;> exact .done _

theorem asks_advance (asking : Handler.Asking ω σ) (negotiation : Negotiation σ)
    (surroundings : ω) : (negotiation.advance surroundings).action.Asks := by
  rw [advance]
  dsimp only
  split
  · split <;> exact asks_enter _ _ _
  · rintro _ ⟨⟩
  · exact asks_closeTurn _ (turnOf _ surroundings)
  · exact asks_obey _ _
  · exact asks_follow _ _ _ _
  · exact asks_goOn _
  · exact asks_takeOver asking _ _ _
  · rintro _ ⟨⟩
  · rintro _ ⟨⟩
  · exact asks_enter _ _ _
  · exact asks_goOn _
  · exact asks_goOn _
  · rintro _ ⟨⟩

end Negotiation

end Parley
