import Parley.Fault

/-!
Nonces and the supply that handlers draw them from.
-/

namespace Parley

structure Nonce where
  bytes : Bytes
  length_eq : bytes.length = nonceLength
  deriving DecidableEq

namespace Nonce

def ofBytes? (bytes : Bytes) : Option Nonce :=
  if lengthEq : bytes.length = nonceLength then some ⟨bytes, lengthEq⟩ else none

def repeated (byte : UInt8) : Nonce := ⟨List.replicate nonceLength byte, List.length_replicate⟩

def ofPattern? (pattern : Bytes) : Option Nonce :=
  ofBytes? ((List.replicate nonceLength pattern).flatten.take nonceLength)

end Nonce

structure NonceSupply where
  draw : Nat → Option Nonce
  drawn : Nat := 0

namespace NonceSupply

/-- Draws the next nonce; a failed draw counts too. -/
def next (supply : NonceSupply) : Option Nonce × NonceSupply :=
  (supply.draw (supply.drawn + 1), { supply with drawn := supply.drawn + 1 })

def counting : NonceSupply := { draw := fun number => some (Nonce.repeated (UInt8.ofNat number)) }

def listed (patterns : List Bytes) : NonceSupply :=
  { draw := fun number => (patterns[number - 1]?).bind Nonce.ofPattern? }

end NonceSupply

end Parley
