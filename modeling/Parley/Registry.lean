import Parley.BuiltIn
import Parley.Dictionary

/-!
Registries: they give a fresh handler for the name of a protocol.
-/

namespace Parley

/-- What makes handlers: the handler of each number, counted from zero, and how many were made. -/
structure Factory (σ : Type) where
  make : Nat → σ
  made : Nat := 0

namespace Factory

def constant {σ : Type} (handler : σ) : Factory σ := { make := fun _ => handler }

end Factory

structure Registry (σ : Type) where
  factories : Dictionary (Factory σ) := Dictionary.empty

namespace Registry

variable {σ : Type}

def register (registry : Registry σ) (name : String) (factory : Factory σ) : Bool × Registry σ :=
  (!registry.factories.contains name, { factories := registry.factories.insert name factory })

def unregister (registry : Registry σ) (name : String) : Bool × Registry σ :=
  (registry.factories.contains name, { factories := registry.factories.erase name })

def contains (registry : Registry σ) (name : String) : Bool := registry.factories.contains name

def names (registry : Registry σ) : List String := registry.factories.keys

/-- Makes a fresh handler, which has to state the name it is registered under. -/
def create [HasFace σ] (registry : Registry σ) (name : String) : Except Fault σ × Registry σ :=
  match registry.factories.get? name with
  | none => (.error (.unknownProtocol name), registry)
  | some factory =>
    let handler := factory.make factory.made
    let registry : Registry σ :=
      { factories := registry.factories.insert name { factory with made := factory.made + 1 } }
    let stated := (face handler).protocol
    if stated = name then (.ok handler, registry)
    else (.error (.registryMismatch name stated), registry)

def standard : Registry BuiltIn :=
  let shared := [Variant.p9sk1, Variant.p9sk2]
  let registry := shared.foldl
    (fun registry variant =>
      (registry.register variant.protocol (.constant (BuiltIn.sharedKey variant))).2)
    ({} : Registry BuiltIn)
  (registry.register Envelope.protocol
    (.constant (BuiltIn.envelope (shared.map Variant.protocol)))).2

def map {τ : Type} (inject : σ → τ) (registry : Registry σ) : Registry τ :=
  { factories := Dictionary.ofList (registry.factories.entries.map fun entry =>
      (entry.1, { make := inject ∘ entry.2.make, made := entry.2.made })) }

end Registry

end Parley
