import Parley.Proofs.BuiltIn.Setup
import Parley.Proofs.Negotiation.Ending
import Parley.Proofs.Negotiation.Routes

/-!
Initialisations that are refused. A built-in handler refuses exactly whom it has no use for; after
that it is silent, and a negotiation with it is over before anything was said.
-/

namespace Parley

open Handler Negotiation

namespace BuiltIn

variable {κ : Type} [KeyStore κ] {handler : BuiltIn} {start : Start} {supplies : Supplies κ}

def Accepts (keys : κ) : Start → BuiltIn → Prop
  | .live identity role, .inl handler => handler.Admits keys identity role
  | .live identity role, .inr handler => handler.Admits identity role
  | .declared attributes, .inl handler =>
      ∃ user role key, handler.Fit attributes user role key ∧
        SharedKey.Admits { handler with ownKey := key.or handler.ownKey } keys
          (some ⟨user, handler.protocol⟩) role
  | .declared attributes, .inr handler =>
      ∃ user role listed, handler.Fit attributes user role listed ∧
        Envelope.Admits { handler with protocols := listed }
          (some ⟨user, Envelope.protocol⟩) role

theorem accepted_iff (handler : BuiltIn) (start : Start) (supplies : Supplies κ) :
    (begin start supplies handler).accepted = true ↔ Accepts supplies.keys start handler := by
  cases start with
  | live identity role =>
      cases handler with
      | inl handler => exact SharedKey.accepted_init_iff
      | inr handler => exact Envelope.accepted_init_iff
  | declared attributes =>
      cases handler with
      | inl handler => exact SharedKey.accepted_initFrom_iff
      | inr handler => exact Envelope.accepted_initFrom_iff

variable (κ) in
/-- A handler that gives its reason and is silent otherwise, whatever is asked of it. -/
structure Silent (handler : BuiltIn) (reason : String) : Prop where
  info : (face handler).info = some reason
  inert : ∀ kind, Inert (Supplies κ) kind .noIdentity handler
  stays {early later : Supplies κ} {taken : Bytes} {answers : List Answer} {last : BuiltIn} :
    History handler early taken answers last later →
      last = handler ∧ ∀ answer ∈ answers, answer = .ok .noIdentity

theorem silent_of_inert {reason : String} (info : (face handler).info = some reason)
    (inert : ∀ kind, Inert (Supplies κ) kind .noIdentity handler) : Silent κ handler reason :=
  ⟨info, inert, fun history => Inert.history inert history⟩

theorem silent_inl (handler : SharedKey) (reason : String) :
    Silent κ (.inl (handler.refused reason)) reason :=
  silent_of_inert rfl fun kind =>
    carries_inl.inert (SharedKey.inert_of_repeats (Lifecycle.repeats_unbound rfl kind))

theorem silent_inr (handler : Envelope) (reason : String) :
    Silent κ (.inr (handler.refused reason)) reason :=
  silent_of_inert rfl fun kind =>
    carries_inr.inert (Envelope.inert_of_repeats (Lifecycle.repeats_unbound rfl kind))

theorem silent_of_refusal (declined : (begin start supplies handler).accepted = false) :
    ∃ refused reason later, begin start supplies handler = ⟨false, refused, later⟩ ∧
      (face refused).protocol = (face handler).protocol ∧ Silent κ refused reason := by
  cases handler with
  | inl handler =>
      obtain ⟨reason, later, same⟩ : ∃ reason later, begin start supplies (.inl handler : BuiltIn) =
          ⟨false, .inl (handler.refused reason), later⟩ := by
        cases start with
        | live identity role =>
            obtain ⟨reason, later, same⟩ := SharedKey.refused_init declined
            exact ⟨reason, later, congrArg (mapInitialised (.inl : SharedKey → BuiltIn)) same⟩
        | declared attributes =>
            obtain ⟨reason, later, _, same⟩ := SharedKey.refused_initFrom declined
            exact ⟨reason, later, congrArg (mapInitialised (.inl : SharedKey → BuiltIn)) same⟩
      exact ⟨_, reason, later, same, rfl, silent_inl handler reason⟩
  | inr handler =>
      obtain ⟨kept, reason, same⟩ : ∃ kept reason, begin start supplies (.inr handler : BuiltIn) =
          ⟨false, .inr (Envelope.refused { handler with protocols := kept } reason), supplies⟩ := by
        cases start with
        | live identity role =>
            obtain ⟨reason, same⟩ := Envelope.refused_init declined
            exact ⟨handler.protocols, reason,
              congrArg (mapInitialised (.inr : Envelope → BuiltIn)) same⟩
        | declared attributes =>
            obtain ⟨reason, kept, _, same⟩ := Envelope.refused_initFrom declined
            exact ⟨kept, reason, congrArg (mapInitialised (.inr : Envelope → BuiltIn)) same⟩
      exact ⟨_, reason, supplies, same, rfl, silent_inr _ reason⟩

end BuiltIn

namespace Negotiation

variable {ω σ : Type} [HasFace σ] [Handler ω σ] {negotiation : Negotiation σ} {surroundings : ω}
  {handler refused : σ} {later : ω}

theorem run_of_refusal (phase : negotiation.phase = .opening)
    (made : (negotiation.registry.create negotiation.protocol).1 = .ok handler)
    (declined : begin negotiation.start surroundings handler = ⟨false, refused, later⟩)
    {cancelAt : Option Nat} {scene : Scene}
    (quiet : (Alarms.starting cancelAt negotiation.settings scene.now).rung scene.now = none)
    (bound : Nat) :
    negotiation.run (bound + 2) cancelAt surroundings scene =
      some ⟨.ok (.noIdentity (face refused).protocol (face refused).info),
        (negotiation.registry.create negotiation.protocol).2, later, scene.release⟩ := by
  let alarms := Alarms.starting cancelAt negotiation.settings scene.now
  let moment : Moment ω σ := ⟨negotiation, surroundings, scene⟩
  have entered : ∃ next, moment.negotiation.advance moment.surroundings =
      moment.negotiation.enter next moment.surroundings := by
    simp only [moment]
    rw [advance, phase]
    cases negotiation.route with
    | blobs => exact ⟨_, rfl⟩
    | direct => exact ⟨_, rfl⟩
  obtain ⟨next, entered⟩ := entered
  have first := step_of_refusal alarms entered made declined
  rw [run_of_quiet quiet, Moment.end?_of_moves first, Moment.end?_of_stops (step_over alarms rfl)]
  rfl

end Negotiation

namespace BuiltIn

variable {κ : Type} [KeyStore κ]

/--
A built-in handler refuses exactly what it does not accept. Then it answers every call, of either
kind and in any order, that it has no identity, and does nothing else; and a negotiation that begins
with it gives its reason as the outcome, without a word to the peer or from it.
-/
theorem refused_exactly (handler : BuiltIn) (start : Start) (supplies : Supplies κ) :
    ((begin start supplies handler).accepted = true ↔ Accepts supplies.keys start handler) ∧
    ((begin start supplies handler).accepted = false →
      ∃ reason, Silent κ (begin start supplies handler).handler reason ∧
        ∀ (negotiation : Negotiation BuiltIn) (cancelAt : Option Nat) (scene : Scene) (bound : Nat),
          negotiation.phase = .opening → negotiation.start = start →
          (negotiation.registry.create negotiation.protocol).1 = .ok handler →
          (Alarms.starting cancelAt negotiation.settings scene.now).rung scene.now = none →
          ∃ ended, negotiation.run (bound + 2) cancelAt supplies scene = some ended ∧
            seen ended = (.ok (.noIdentity (face handler).protocol (some reason)),
              scene.shared.channel, scene.pauses, scene.now)) := by
  refine ⟨accepted_iff handler start supplies, fun declined => ?_⟩
  obtain ⟨refused, reason, later, same, protocolEq, silent⟩ := silent_of_refusal declined
  rw [same]
  refine ⟨reason, silent, ?_⟩
  rintro negotiation cancelAt scene bound phase rfl made quiet
  refine ⟨_, run_of_refusal phase made same quiet bound, ?_⟩
  rw [protocolEq, silent.info, seen]
  simp only [Scene.release]
  split <;> rfl

def keyless : Negotiation BuiltIn :=
  { protocol := "p9sk1", start := .live (some ⟨"alice", "p9sk1"⟩) .client, route := .direct,
    settings := .default, registry := .standard }

def emptyStore : Supplies MemoryKeys := ⟨.counting, {}⟩

def deafScene : Scene := { shared := { channel := { reads := [.silence] } } }

theorem refused_exactly_keyless :
    (begin keyless.start emptyStore (sharedKey .p9sk1)).accepted = false ∧
      ∃ reason,
        Silent MemoryKeys (begin keyless.start emptyStore (sharedKey .p9sk1)).handler reason ∧
        ∃ ended, keyless.run 2 none emptyStore deafScene = some ended ∧
          seen ended = (.ok (.noIdentity "p9sk1" (some reason)), deafScene.shared.channel, [], 0) := by
  have declined : (begin keyless.start emptyStore (sharedKey .p9sk1)).accepted = false := by
    decide +kernel
  have made : (keyless.registry.create keyless.protocol).1 = .ok (sharedKey .p9sk1) :=
    Registry.stocked_standard.create_sharedKey .p9sk1
  have quiet : (Alarms.starting none keyless.settings deafScene.now).rung deafScene.now = none := by
    decide +kernel
  obtain ⟨reason, silent, ends⟩ :=
    (refused_exactly (sharedKey .p9sk1) keyless.start emptyStore).2 declined
  exact ⟨declined, reason, silent, ends keyless none deafScene 0 rfl rfl made quiet⟩

end BuiltIn

end Parley
