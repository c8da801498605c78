import Parley.Proofs.Handler.History

/-! The calls of a handler within a larger type of handlers are its own calls. -/

namespace Parley

variable {ω σ τ : Type}

def Takeover.map (inject : σ → τ) (takeover : Takeover ω σ) : Takeover ω τ :=
  { takeover with handler := inject takeover.handler }

namespace Handler

variable [HasFace σ] [HasFace τ] [Handler ω σ] [Handler ω τ]

/-- Handlers that are called in a larger type as they are in their own. -/
structure Carries (ω : Type) {σ τ : Type} [HasFace σ] [HasFace τ] [Handler ω σ] [Handler ω τ]
    (inject : σ → τ) : Prop where
  produce (handler : σ) (blob : Blob) (surroundings : ω) :
    Handler.produce (inject handler) blob surroundings =
      mapTurn inject (Handler.produce handler blob surroundings)
  consume (handler : σ) (blob : Blob) (surroundings : ω) :
    Handler.consume (inject handler) blob surroundings =
      mapTurn inject (Handler.consume handler blob surroundings)
  takeOver (handler : σ) (surroundings : ω) :
    Handler.takeOver (inject handler) surroundings =
      mapStretch inject (Handler.takeOver handler surroundings)
  carryOn (handler : σ) (surroundings : ω) :
    Handler.carryOn (inject handler) surroundings =
      mapStretch inject (Handler.carryOn handler surroundings)

theorem carries_inl : Carries ω (.inl : σ → σ ⊕ τ) :=
  ⟨fun _ _ _ => rfl, fun _ _ _ => rfl, fun _ _ => rfl, fun _ _ => rfl⟩

theorem carries_inr : Carries ω (.inr : τ → σ ⊕ τ) :=
  ⟨fun _ _ _ => rfl, fun _ _ _ => rfl, fun _ _ => rfl, fun _ _ => rfl⟩

variable {inject : σ → τ}

theorem Carries.trans {υ : Type} [HasFace υ] [Handler ω υ] {further : τ → υ}
    (second : Carries ω further) (first : Carries ω inject) :
    Carries ω (fun handler => further (inject handler)) := by
  have joined (stretch : Stretch ω σ) : mapStretch further (mapStretch inject stretch) =
      mapStretch (fun handler => further (inject handler)) stretch := by
    simp only [mapStretch, Dialogue.bind_bind]
    rfl
  constructor
  · intro handler blob surroundings
    rw [second.produce, first.produce]
    rfl
  · intro handler blob surroundings
    rw [second.consume, first.consume]
    rfl
  · intro handler surroundings
    rw [second.takeOver, first.takeOver, joined]
  · intro handler surroundings
    rw [second.carryOn, first.carryOn, joined]

theorem Carries.follow (carries : Carries ω inject) (bound : Nat) (stretch : Stretch ω σ)
    (script : Script) :
    Takeover.follow bound (mapStretch inject stretch) script =
      (Takeover.follow bound stretch script).map (Takeover.map inject) := by
  induction bound generalizing stretch script with
  | zero => rfl
  | succ bound ih =>
      simp only [Takeover.follow, mapStretch, Script.play_bind]
      rcases script.play stretch.dialogue with ⟨_ | ⟨handler, _ | answer⟩, later⟩
      · rfl
      · dsimp only [Script.play]
        rw [carries.carryOn]
        exact ih _ _
      · rfl

theorem Carries.contact (carries : Carries ω inject) {handler : σ} {next : τ}
    {surroundings later : ω} {taken : Bytes} {answer : Option Answer}
    (contact : Contact (inject handler) surroundings taken answer next later) :
    ∃ inner, next = inject inner ∧ Contact handler surroundings taken answer inner later := by
  cases contact with
  | produce blob =>
      rw [carries.produce]
      exact ⟨_, rfl, .produce handler surroundings blob⟩
  | consume blob =>
      rw [carries.consume]
      exact ⟨_, rfl, .consume handler surroundings blob⟩
  | process ran =>
      rw [Takeover.run, carries.takeOver, carries.follow] at ran
      obtain ⟨inner, followed, rfl⟩ := Option.map_eq_some_iff.mp ran
      exact ⟨_, rfl, .process followed⟩

end Handler

end Parley
