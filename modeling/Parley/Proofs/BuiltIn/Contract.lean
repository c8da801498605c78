import Parley.Proofs.BuiltIn.Credential
import Parley.Proofs.Envelope.Contract
import Parley.Proofs.Registry.Standard
import Parley.Proofs.SharedKey.Contract

/-!
The built-in handlers keep to the contract with their driver, whichever registry makes them.
-/

namespace Parley

open Lifecycle

namespace BuiltIn

inductive Made : BuiltIn → Prop
  | sharedKey (variant : Variant) : Made (sharedKey variant)
  | envelope (names : List String) : Made (envelope names)

def Honest : BuiltIn → Prop
  | .inl handler => handler.Honest
  | .inr handler => handler.Honest

structure Bound (handler bound : BuiltIn) : Prop where
  honest : bound.Honest
  ready : bound.lifecycle.Ready
  protocol_eq : (face bound).protocol = (face handler).protocol

variable {κ : Type} [KeyStore κ] {handler next : BuiltIn} {supplies : Supplies κ} {blob : Blob}

theorem Made.init (made : Made handler) {identity : Option Identity} {role : Role}
    (accepted : (Handler.init handler identity role supplies).accepted = true) :
    Bound handler (Handler.init handler identity role supplies).handler := by
  cases made with
  | sharedKey variant =>
      have initialises : Initialises (SharedKey.fresh variant) supplies _ _ := .live identity role
      have ready := SharedKey.ready_init rfl rfl identity role supplies accepted
      exact ⟨SharedKey.honest_initialises initialises ready.lifecycle.stage, ready.lifecycle,
        SharedKey.protocol_initialises initialises⟩
  | envelope names =>
      have initialises : Initialises (Envelope.fresh names) supplies _ _ := .live identity role
      have honest := Envelope.honest_initialises initialises
      exact ⟨honest, (Envelope.ready_init rfl identity role supplies).2 accepted,
        honest.protocol_eq⟩

theorem Made.initFrom (made : Made handler) {attributes : Attributes}
    (accepted : (Handler.initFrom handler attributes supplies).accepted = true) :
    Bound handler (Handler.initFrom handler attributes supplies).handler := by
  cases made with
  | sharedKey variant =>
      have initialises : Initialises (SharedKey.fresh variant) supplies _ _ := .declared attributes
      have ready := SharedKey.ready_initFrom rfl rfl attributes supplies accepted
      exact ⟨SharedKey.honest_initialises initialises ready.lifecycle.stage, ready.lifecycle,
        SharedKey.protocol_initialises initialises⟩
  | envelope names =>
      have initialises : Initialises (Envelope.fresh names) supplies _ _ := .declared attributes
      have honest := Envelope.honest_initialises initialises
      exact ⟨honest, (Envelope.ready_initFrom rfl attributes supplies).2 accepted,
        honest.protocol_eq⟩

theorem Honest.produce (honest : handler.Honest) (still : handler.lifecycle.Open .blob) :
    Behaves .blob handler.lifecycle (Handler.produce handler blob supplies).handler.lifecycle
      (Handler.produce handler blob supplies).handler.Honest
      (Handler.produce handler blob supplies).answer := by
  cases handler with
  | inl handler => exact SharedKey.Honest.produce honest still
  | inr handler => exact Envelope.Honest.produce honest still

theorem Honest.consume (honest : handler.Honest) (still : handler.lifecycle.Open .blob) :
    Behaves .blob handler.lifecycle (Handler.consume handler blob supplies).handler.lifecycle
      (Handler.consume handler blob supplies).handler.Honest
      (Handler.consume handler blob supplies).answer := by
  cases handler with
  | inl handler => exact SharedKey.Honest.consume honest still
  | inr handler => exact Envelope.Honest.consume honest still

theorem Honest.takeOver (honest : handler.Honest) (still : handler.lifecycle.Open .takeover)
    {given : Option Answer}
    (leads : (Handler.takeOver handler supplies).dialogue.Leads (next, given)) :
    Unfolds handler.lifecycle next.lifecycle next.Honest given := by
  cases handler with
  | inl handler =>
      obtain ⟨⟨inner, answer⟩, talked, last⟩ := Dialogue.leads_bind_iff.mp leads
      cases Dialogue.leads_done_iff.mp last
      exact SharedKey.Honest.takeOver honest still talked
  | inr handler =>
      obtain ⟨⟨inner, answer⟩, talked, last⟩ := Dialogue.leads_bind_iff.mp leads
      cases Dialogue.leads_done_iff.mp last
      exact Envelope.Honest.takeOver honest still talked

theorem Honest.carryOn (honest : handler.Honest) (engaged : handler.lifecycle.Engaged .takeover)
    {given : Option Answer}
    (leads : (Handler.carryOn handler supplies).dialogue.Leads (next, given)) :
    Unfolds handler.lifecycle next.lifecycle next.Honest given := by
  cases handler with
  | inl handler =>
      obtain ⟨⟨inner, answer⟩, talked, last⟩ := Dialogue.leads_bind_iff.mp leads
      cases Dialogue.leads_done_iff.mp last
      exact SharedKey.Honest.carryOn honest engaged talked
  | inr handler =>
      obtain ⟨⟨inner, answer⟩, talked, last⟩ := Dialogue.leads_bind_iff.mp leads
      cases Dialogue.leads_done_iff.mp last
      exact Envelope.Honest.takeOver honest engaged.open talked

end BuiltIn

namespace Registry

/-- A registry whose factories make built-in handlers, under whatever names. -/
def Furnished (registry : Registry BuiltIn) : Prop :=
  ∀ name factory, registry.factories.get? name = some factory →
    ∀ number, BuiltIn.Made (factory.make number)

variable {registry : Registry BuiltIn} {handler : BuiltIn} {fault : Fault}

theorem Furnished.create (furnished : registry.Furnished) (name : String) :
    (registry.create name).2.Furnished := by
  rcases found : registry.factories.get? name with _ | factory
  · rw [create_of_get?_none found]
    exact furnished
  · rw [create_of_get? found]
    intro asked given
    dsimp only
    rw [Dictionary.get?_insert]
    split
    · rintro ⟨⟩
      exact furnished name factory found
    · exact furnished asked given

theorem Furnished.made (furnished : registry.Furnished) {name : String}
    (created : (registry.create name).1 = .ok handler) : BuiltIn.Made handler := by
  rcases found : registry.factories.get? name with _ | factory
  · rw [create_of_get?_none found] at created
    cases created
  · rw [create_of_get? found] at created
    dsimp only at created
    split at created
    · cases created
      exact furnished name factory found _
    · cases created

theorem ordinary_create {name : String} (failed : (registry.create name).1 = .error fault) :
    fault.Ordinary := by
  rcases found : registry.factories.get? name with _ | factory
  · rw [create_of_get?_none found] at failed
    cases failed
    trivial
  · rw [create_of_get? found] at failed
    dsimp only at failed
    split at failed
    · cases failed
    · cases failed
      trivial

theorem furnished_register (furnished : registry.Furnished) (name : String)
    (factory : Factory BuiltIn) (makes : ∀ number, BuiltIn.Made (factory.make number)) :
    (registry.register name factory).2.Furnished := by
  intro asked given
  simp only [register, Dictionary.get?_insert]
  split
  · rintro ⟨⟩
    exact makes
  · exact furnished asked given

theorem furnished_standard : standard.Furnished := by
  have empty : ({} : Registry BuiltIn).Furnished := by
    intro name factory found
    cases found
  have first := furnished_register empty Variant.p9sk1.protocol
    (.constant (BuiltIn.sharedKey .p9sk1)) fun _ => .sharedKey .p9sk1
  have second := furnished_register first Variant.p9sk2.protocol
    (.constant (BuiltIn.sharedKey .p9sk2)) fun _ => .sharedKey .p9sk2
  exact furnished_register second Envelope.protocol
    (.constant (BuiltIn.envelope ["p9sk1", "p9sk2"])) fun _ => .envelope _

end Registry

end Parley
