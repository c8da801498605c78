import Parley.Dictionary
import Parley.Fault
import Parley.Nonce
import Parley.Text.Blank

/-!
Secret keys and the stores that hold them. A store may answer that a key is locked for a while;
an answer may change the store.
-/

namespace Parley

structure SecretKey where
  bytes : Bytes
  deriving DecidableEq

namespace SecretKey

def ofHex (text : String) : Except Fault SecretKey :=
  match Hex.decode (Text.trim text) with
  | .error error => .error (.invalidAttribute "key" (.notHex error))
  | .ok bytes =>
    if bytes.isEmpty then .error (.invalidAttribute "key" .emptyKey) else .ok ⟨bytes⟩

def describe (key : SecretKey) : String :=
  "SecretKey([" ++ toString key.bytes.length ++ " bytes])"

end SecretKey

inductive KeyLookup where
  | found (key : SecretKey)
  | missing
  | locked (seconds : Nat)
  deriving DecidableEq

class KeyStore (κ : Type) where
  lookup : κ → String → KeyLookup × κ

/-- A lock on a user, and how many lookups it still answers; without a count it stays. -/
structure KeyLock where
  seconds : Nat
  remaining : Option Nat := none

structure MemoryKeys where
  keys : Dictionary SecretKey := Dictionary.empty
  locks : Dictionary KeyLock := Dictionary.empty

namespace MemoryKeys

def insert (store : MemoryKeys) (user : String) (key : SecretKey) : MemoryKeys :=
  { store with keys := store.keys.insert user key }

def remove (store : MemoryKeys) (user : String) : Option SecretKey × MemoryKeys :=
  (store.keys.get? user, { store with keys := store.keys.erase user })

def lock (store : MemoryKeys) (user : String) (lock : KeyLock) : MemoryKeys :=
  { store with locks := store.locks.insert user lock }

def unlock (store : MemoryKeys) (user : String) : MemoryKeys :=
  { store with locks := store.locks.erase user }

/-- Looks up a key; a lock answers first, and a counted lock goes away with its last answer. -/
def lookup (store : MemoryKeys) (user : String) : KeyLookup × MemoryKeys :=
  match store.locks.get? user with
  | some { seconds, remaining := none } => (.locked seconds, store)
  | some { seconds, remaining := some (left + 1) } =>
    (.locked seconds,
      if left = 0 then store.unlock user else store.lock user { seconds, remaining := some left })
  | _ =>
    match store.keys.get? user with
    | some key => (.found key, store)
    | none => (.missing, store)

instance : KeyStore MemoryKeys := ⟨lookup⟩

end MemoryKeys

structure Supplies (κ : Type) where
  nonces : NonceSupply
  keys : κ

namespace Supplies

variable {κ : Type} [KeyStore κ]

def lookup (supplies : Supplies κ) (user : String) : KeyLookup × Supplies κ :=
  let (answer, keys) := KeyStore.lookup supplies.keys user
  (answer, { supplies with keys })

def drawNonce (supplies : Supplies κ) : Option Nonce × Supplies κ :=
  let (nonce, nonces) := supplies.nonces.next
  (nonce, { supplies with nonces })

end Supplies

end Parley
