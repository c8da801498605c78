import Parley.Text.Blank

/-!
Settings of a negotiation. Each is taken from an explicit value, else from the environment, else
from a default.
-/

namespace Parley

abbrev Environment := String → Option String

structure Settings where
  timeout : Nat
  blobCapacity : Nat
  maxDelegations : Nat
  maxRetries : Nat
  retryDelay : Nat
  deriving DecidableEq, Repr

/-- Explicit values that go before the environment; the timeout is in seconds. -/
structure Overrides where
  timeoutSeconds : Option Nat := none
  blobCapacity : Option Nat := none
  maxDelegations : Option Nat := none
  maxRetries : Option Nat := none
  retryDelay : Option Nat := none

namespace Settings

/-! The environment variables that settings come from. -/

def timeoutVariable : String := "STYX_AUTH_TIMEOUT"

def blobCapacityVariable : String := "STYX_AUTH_BLOB_CAPACITY"

def maxDelegationsVariable : String := "STYX_AUTH_MAX_DELEGATIONS"

def maxRetriesVariable : String := "STYX_AUTH_MAX_RETRIES"

def retryDelayVariable : String := "STYX_AUTH_RETRY_DELAY_MS"

def variableNames : List String :=
  [timeoutVariable, blobCapacityVariable, maxDelegationsVariable, maxRetriesVariable,
    retryDelayVariable]

def smallestBlob : Nat := 16

def default : Settings :=
  { timeout := 30000, blobCapacity := 4096, maxDelegations := 4, maxRetries := 3,
    retryDelay := 1000 }

def digitsValue? (digits : List Char) : Option Nat :=
  if digits.isEmpty || !digits.all Char.isDigit then none
  else some (digits.foldl (fun total digit => total * 10 + (digit.toNat - 48)) 0)

/-- Reads a number of at most the given bits, with an optional plus sign and blanks around it. -/
def readNumber (bits : Nat) (text : String) : Option Nat :=
  let value := match Text.trimChars text.toList with
    | '+' :: digits => digitsValue? digits
    | digits => digitsValue? digits
  value.filter (fun value => value < Nat.pow 2 bits)

def choose (environment : Environment) (explicit : Option Nat) (name : String)
    (bits default : Nat) : Nat :=
  match explicit with
  | some value => value
  | none => ((environment name).bind (readNumber bits)).getD default

def resolve (environment : Environment) (overrides : Overrides) : Settings :=
  let value := choose environment
  { timeout := 1000 *
      value overrides.timeoutSeconds timeoutVariable 64 (default.timeout / 1000)
    blobCapacity := max smallestBlob
      (value overrides.blobCapacity blobCapacityVariable 64 default.blobCapacity)
    maxDelegations :=
      value overrides.maxDelegations maxDelegationsVariable 64 default.maxDelegations
    maxRetries := value overrides.maxRetries maxRetriesVariable 32 default.maxRetries
    retryDelay := value overrides.retryDelay retryDelayVariable 64 default.retryDelay }

def fromEnvironment (environment : Environment) : Settings := resolve environment {}

def withTimeout (settings : Settings) (milliseconds : Nat) : Settings :=
  { settings with timeout := milliseconds }

def withBlobCapacity (settings : Settings) (capacity : Nat) : Settings :=
  { settings with blobCapacity := max smallestBlob capacity }

def withMaxDelegations (settings : Settings) (limit : Nat) : Settings :=
  { settings with maxDelegations := limit }

def withRetries (settings : Settings) (limit delay : Nat) : Settings :=
  { settings with maxRetries := limit, retryDelay := delay }

end Settings

end Parley
