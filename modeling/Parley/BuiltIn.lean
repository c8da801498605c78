import Parley.Envelope
import Parley.SharedKey

/-!
The handlers that the library provides.
-/

namespace Parley

abbrev BuiltIn := SharedKey ⊕ Envelope

namespace BuiltIn

def sharedKey (variant : Variant) : BuiltIn := .inl (SharedKey.fresh variant)

def envelope (names : List String) : BuiltIn := .inr (Envelope.fresh names)

def ofProtocol? (protocol : String) (names : List String) : Option BuiltIn :=
  if protocol = Variant.p9sk1.protocol then some (sharedKey .p9sk1)
  else if protocol = Variant.p9sk2.protocol then some (sharedKey .p9sk2)
  else if protocol = Envelope.protocol then some (envelope names)
  else none

end BuiltIn

end Parley
