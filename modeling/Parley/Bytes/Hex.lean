import Parley.Bytes
import Parley.Text.Quoted

/-!
Hexadecimal text: two digits a byte, written in lower case and read in either case.
-/

namespace Parley

inductive HexError where
  | oddLength
  | badDigit (digit : Char) (position : Nat)
  deriving DecidableEq, Repr

namespace HexError

def message : HexError → String
  | .oddLength => "Odd number of digits"
  | .badDigit digit position =>
    "Invalid character " ++ Text.quoteChar digit ++ " at position " ++ toString position

end HexError

namespace Hex

def digit (value : Nat) : Char :=
  if value < 10 then Char.ofNat (48 + value) else Char.ofNat (87 + value)

def digitValue (code : Nat) : Option Nat :=
  if 48 ≤ code ∧ code ≤ 57 then some (code - 48)
  else if 65 ≤ code ∧ code ≤ 70 then some (code - 55)
  else if 97 ≤ code ∧ code ≤ 102 then some (code - 87)
  else none

def byteDigits (byte : UInt8) : List Char := [digit (byte.toNat / 16), digit (byte.toNat % 16)]

def encode (bytes : Bytes) : String := String.ofList (bytes.flatMap byteDigits)

def decodePairs (position : Nat) : Bytes → Except HexError Bytes
  | high :: low :: rest =>
    match digitValue high.toNat, digitValue low.toNat with
    | none, _ => .error (.badDigit (Char.ofNat high.toNat) position)
    | some _, none => .error (.badDigit (Char.ofNat low.toNat) (position + 1))
    | some upper, some lower =>
      match decodePairs (position + 2) rest with
      | .error error => .error error
      | .ok bytes => .ok (UInt8.ofNat (upper * 16 + lower) :: bytes)
  | _ => .ok []

/-- Reads hexadecimal text; an odd length is reported before any bad digit. -/
def decode (text : String) : Except HexError Bytes :=
  let digits := Bytes.ofText text
  if digits.length % 2 = 0 then decodePairs 0 digits else .error .oddLength

end Hex

end Parley
