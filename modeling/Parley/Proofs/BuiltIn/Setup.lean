import Parley.Proofs.BuiltIn.Endings
import Parley.Proofs.Envelope.Setup
import Parley.Proofs.SharedKey.Setup

/-!
Built-in handlers that refuse to be set up from attributes. What is left of the attributes is the
reason of the refusal, and with an envelope the protocols that they list if only the user is missing.
-/

namespace Parley

def Lifecycle.remark (lifecycle : Lifecycle) (info : String) : Lifecycle :=
  { lifecycle with face := { lifecycle.face with info := some info } }

namespace BuiltIn

variable {κ : Type} [KeyStore κ] {handler : BuiltIn} {attributes : Attributes}
  {supplies : Supplies κ}

def remark (handler : BuiltIn) (info : String) : BuiltIn :=
  match handler with
  | .inl handler => .inl { handler with lifecycle := handler.lifecycle.remark info }
  | .inr handler => .inr { handler with lifecycle := handler.lifecycle.remark info }

def relist (handler : BuiltIn) (protocols : List String) : BuiltIn :=
  match handler with
  | .inl handler => .inl handler
  | .inr handler => .inr { handler with protocols }

inductive Declines (attributes : Attributes) (supplies : Supplies κ) :
    BuiltIn → String → Supplies κ → Prop
  | sharedKey {handler : SharedKey} {reason : String} {later : Supplies κ}
      (declines : handler.Declines attributes supplies reason later) :
      Declines attributes supplies (.inl handler) reason later
  | envelope {handler : Envelope} {reason : String} {listed : List String}
      (declines : handler.Declines attributes reason listed) :
      Declines attributes supplies (.inr handler) reason supplies

/-- The attributes list protocols for an envelope and lack nothing but a user. -/
def Relists (attributes : Attributes) (listed : List String) : BuiltIn → Prop
  | .inl _ => False
  | .inr _ => Envelope.Relists attributes listed

variable (κ) in
/-- Whatever one is set up with, so is the other, and there is no telling them apart then. -/
def SetUpAlike (first second : BuiltIn) : Prop :=
  ∀ supplies : Supplies κ,
    (∀ identity role, Handler.init first identity role supplies =
      Handler.init second identity role supplies) ∧
    ∀ attributes, Handler.initFrom first attributes supplies =
      Handler.initFrom second attributes supplies

theorem setUpAlike_inl {handler : SharedKey} (reason : String) :
    SetUpAlike κ (.inl (handler.refused reason)) (.inl handler) := by
  intro supplies
  constructor
  · intro identity role
    exact congrArg (Handler.mapInitialised (.inl : SharedKey → BuiltIn))
      (handler.init_refused reason identity role supplies)
  · intro attributes
    exact congrArg (Handler.mapInitialised (.inl : SharedKey → BuiltIn))
      (handler.initFrom_refused reason attributes supplies)

theorem setUpAlike_inr {handler : Envelope} (reason : String) :
    SetUpAlike κ (.inr (handler.refused reason)) (.inr handler) := by
  intro supplies
  constructor
  · intro identity role
    exact congrArg (Handler.mapInitialised (.inr : Envelope → BuiltIn))
      (handler.init_refused reason identity role supplies)
  · intro attributes
    exact congrArg (Handler.mapInitialised (.inr : Envelope → BuiltIn))
      (handler.initFrom_refused reason attributes supplies)

/--
A fresh handler that declines attributes is as it was, but for the reason that it shows; so it can
be set up as if nothing had happened. Only an envelope for which nothing but the user is missing
keeps the protocols that the attributes list, instead of its own.
-/
theorem left_by_refusal (made : Made handler)
    (declined : (Handler.initFrom handler attributes supplies).accepted = false) :
    ∃ reason later kept, Declines attributes supplies handler reason later ∧
      Handler.initFrom handler attributes supplies = ⟨false, remark kept reason, later⟩ ∧
      face (remark kept reason) = { protocol := (face handler).protocol, info := some reason } ∧
      SetUpAlike κ (remark kept reason) kept ∧
      (kept = handler ∧ (∀ listed, ¬ Relists attributes listed handler) ∨
        ∃ listed, Relists attributes listed handler ∧ kept = relist handler listed) := by
  cases made with
  | sharedKey variant =>
      obtain ⟨reason, later, declines, same⟩ := SharedKey.refused_initFrom declined
      refine ⟨reason, later, sharedKey variant, .sharedKey declines, ?_, rfl,
        setUpAlike_inl reason, Or.inl ⟨rfl, fun _ relists => relists⟩⟩
      exact congrArg (Handler.mapInitialised (.inl : SharedKey → BuiltIn)) same
  | envelope names =>
      obtain ⟨reason, listed, declines, same⟩ := Envelope.refused_initFrom declined
      have left := congrArg (Handler.mapInitialised (.inr : Envelope → BuiltIn)) same
      refine ⟨reason, supplies, relist (envelope names) listed, .envelope declines, left, rfl,
        setUpAlike_inr reason, ?_⟩
      by_cases relists : ∃ listed, Relists attributes listed (envelope names)
      · obtain ⟨others, relists⟩ : ∃ others, Envelope.Relists attributes others := relists
        have again := relists.left (Envelope.fresh names) supplies
        have sameList : listed = others :=
          congrArg (·.handler.protocols) (same.symm.trans again)
        exact Or.inr ⟨others, relists, by rw [sameList]⟩
      · rcases declines.kept with rfl | leftBehind
        · exact Or.inl ⟨rfl, fun listed found => relists ⟨listed, found⟩⟩
        · exact absurd ⟨listed, leftBehind⟩ relists

/-- A client without a key in the store. -/
theorem left_by_refusal_alice :
    (Handler.initFrom (sharedKey .p9sk1) (Dictionary.empty.insert "user" "alice")
        (⟨.counting, {}⟩ : Supplies MemoryKeys)).accepted = false ∧
      ∃ reason later kept,
        Declines (Dictionary.empty.insert "user" "alice")
          (⟨.counting, {}⟩ : Supplies MemoryKeys) (sharedKey .p9sk1) reason later ∧
        Handler.initFrom (sharedKey .p9sk1) (Dictionary.empty.insert "user" "alice")
          (⟨.counting, {}⟩ : Supplies MemoryKeys) = ⟨false, remark kept reason, later⟩ ∧
        SetUpAlike MemoryKeys (remark kept reason) kept := by
  have declined : (Handler.initFrom (sharedKey .p9sk1) (Dictionary.empty.insert "user" "alice")
      (⟨.counting, {}⟩ : Supplies MemoryKeys)).accepted = false := by decide +kernel
  obtain ⟨reason, later, kept, declines, same, _, alike, _⟩ :=
    left_by_refusal (.sharedKey .p9sk1) declined
  exact ⟨declined, reason, later, kept, declines, same, alike⟩

/-- A refused envelope may keep the protocols of the attributes, and refuse whom it accepted. -/
theorem relisted_by_refusal :
    let supplies : Supplies MemoryKeys := ⟨.counting, {}⟩
    let refused := Handler.initFrom (envelope ["p9sk1"])
      (Dictionary.empty.insert "protocols" "p9sk2") supplies
    let alice : Identity := ⟨"alice", "p9sk1"⟩
    refused.accepted = false ∧
      refused.handler.getRight?.map Envelope.protocols = some ["p9sk2"] ∧
      (Handler.init (envelope ["p9sk1"]) (some alice) .client supplies).accepted = true ∧
      (Handler.init refused.handler (some alice) .client supplies).accepted = false := by
  decide +kernel

end BuiltIn

end Parley
