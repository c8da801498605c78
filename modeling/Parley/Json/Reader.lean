import Parley.Bytes
import Parley.Json

/-!
Reading JSON text. Values nest at most `Json.deepest` levels, a string holds no raw control
character and no lone surrogate, and a numeral must not exceed the range of a double.
-/

namespace Parley.Json

def deepest : Nat := 127

def isSpace (char : Char) : Bool := char == ' ' || char == '\n' || char == '\t' || char == '\r'

def skipSpace (text : List Char) : List Char := text.dropWhile isSpace

def hexValue (char : Char) : Option Nat :=
  if '0' ≤ char ∧ char ≤ '9' then some (char.toNat - 48)
  else if 'a' ≤ char ∧ char ≤ 'f' then some (char.toNat - 87)
  else if 'A' ≤ char ∧ char ≤ 'F' then some (char.toNat - 55)
  else none

def hexUnit (first second third fourth : Char) : Option Nat :=
  match hexValue first, hexValue second, hexValue third, hexValue fourth with
  | some a, some b, some c, some d => some (a * 4096 + b * 256 + c * 16 + d)
  | _, _, _, _ => none

def opensPair (unit : Nat) : Bool := 0xD800 ≤ unit && unit < 0xDC00

def closesPair (unit : Nat) : Bool := 0xDC00 ≤ unit && unit < 0xE000

def shortEscape (letter : Char) : Option Char :=
  if letter = '"' then some '"'
  else if letter = '\\' then some '\\'
  else if letter = '/' then some '/'
  else if letter = 'b' then some '\x08'
  else if letter = 'f' then some '\x0c'
  else if letter = 'n' then some '\n'
  else if letter = 'r' then some '\r'
  else if letter = 't' then some '\t'
  else none

def push (char : Char) : Option (List Char × List Char) → Option (List Char × List Char)
  | none => none
  | some (text, rest) => some (char :: text, rest)

def readString : List Char → Option (List Char × List Char)
  | [] => none
  | '"' :: rest => some ([], rest)
  | '\\' :: 'u' :: a :: b :: c :: d :: rest =>
    match hexUnit a b c d with
    | none => none
    | some unit =>
      if opensPair unit then
        match rest with
        | '\\' :: 'u' :: e :: f :: g :: h :: rest =>
          match hexUnit e f g h with
          | none => none
          | some low =>
            if closesPair low then
              push (Char.ofNat (0x10000 + (unit - 0xD800) * 1024 + (low - 0xDC00)))
                (readString rest)
            else none
        | _ => none
      else if closesPair unit then none
      else push (Char.ofNat unit) (readString rest)
  | '\\' :: letter :: rest =>
    match shortEscape letter with
    | none => none
    | some char => push char (readString rest)
  | char :: rest => if char.toNat < 32 then none else push char (readString rest)

def digitsValue (digits : List Char) : Nat :=
  digits.foldl (fun total digit => total * 10 + (digit.toNat - 48)) 0

/-- The nearest multiple of a power of two with fifty-three significant bits; a tie goes to even. -/
def roundToDouble (value : Nat) : Nat :=
  let unit := Nat.pow 2 (Nat.log2 value - 52)
  let quotient := value / unit
  let twice := 2 * (value % unit)
  if twice > unit ∨ (twice = unit ∧ quotient % 2 = 1) then (quotient + 1) * unit
  else quotient * unit

def leadingValue (value count : Nat) : List Char → Nat × Nat
  | [] => (value, count)
  | digit :: rest =>
    let next := value * 10 + (digit.toNat - 48)
    if next < UInt64.size then leadingValue next (count + 1) rest else (value, count)

def overflow : Nat := Nat.pow 2 1024 - Nat.pow 2 970

/--
Whether a numeral with the given digits before and after the point exceeds the range of a double.
Its value is the leading digits as a double times a power of ten as a double.
-/
def exceedsDouble (whole fraction : List Char) (exponent : Int) : Bool :=
  let (value, wholeCount) := leadingValue 0 0 whole
  let (value, fractionCount) := leadingValue value 0 fraction
  let power := exponent + whole.length - wholeCount - fractionCount
  if value = 0 ∨ power < 0 then false
  else if 308 < power then true
  else overflow ≤ roundToDouble value * roundToDouble (Nat.pow 10 power.toNat)

def readDigits (text : List Char) : Option (List Char × List Char) :=
  match text.takeWhile Char.isDigit with
  | [] => none
  | digits => some (digits, text.dropWhile Char.isDigit)

def readWhole : List Char → Option (List Char × List Char)
  | '0' :: rest => some (['0'], rest)
  | text => readDigits text

def readFraction : List Char → Option (List Char × List Char)
  | '.' :: rest => readDigits rest
  | text => some ([], text)

def readSigned : List Char → Option (Int × List Char)
  | '+' :: rest => (readDigits rest).map fun (digits, rest) => ((digitsValue digits : Int), rest)
  | '-' :: rest => (readDigits rest).map fun (digits, rest) => (-(digitsValue digits : Int), rest)
  | text => (readDigits text).map fun (digits, rest) => ((digitsValue digits : Int), rest)

def readExponent : List Char → Option (Option Int × List Char)
  | 'e' :: rest => (readSigned rest).map fun (value, rest) => (some value, rest)
  | 'E' :: rest => (readSigned rest).map fun (value, rest) => (some value, rest)
  | text => some (none, text)

def readMagnitude (negative : Bool) (text : List Char) : Option (Json × List Char) := do
  let (whole, rest) ← readWhole text
  let (fraction, rest) ← readFraction rest
  let (exponent, rest) ← readExponent rest
  let value := digitsValue whole
  let signed : Int := if negative then -(value : Int) else value
  let inRange :=
    if negative then 0 < value ∧ 2 * value ≤ UInt64.size else value < UInt64.size
  if fraction.isEmpty ∧ exponent.isNone ∧ inRange then some (.integer signed, rest)
  else if exceedsDouble whole fraction (exponent.getD 0) then none
  else
    let sign := if negative then ['-'] else []
    some (.decimal (String.ofList (sign ++ text.take (text.length - rest.length))), rest)

def readNumber : List Char → Option (Json × List Char)
  | '-' :: rest => readMagnitude true rest
  | text => readMagnitude false text

def readItems (readItem : List Char → Option (Json × List Char)) :
    Nat → List Char → Option (List Json × List Char)
  | 0, _ => none
  | bound + 1, text =>
    match readItem (skipSpace text) with
    | none => none
    | some (item, rest) =>
      match skipSpace rest with
      | ',' :: rest =>
        match readItems readItem bound rest with
        | none => none
        | some (items, rest) => some (item :: items, rest)
      | ']' :: rest => some ([item], rest)
      | _ => none

def readFields (readItem : List Char → Option (Json × List Char)) :
    Nat → List Char → Option (List (String × Json) × List Char)
  | 0, _ => none
  | bound + 1, text =>
    match skipSpace text with
    | '"' :: rest =>
      match readString rest with
      | none => none
      | some (name, rest) =>
        match skipSpace rest with
        | ':' :: rest =>
          match readItem (skipSpace rest) with
          | none => none
          | some (value, rest) =>
            match skipSpace rest with
            | ',' :: rest =>
              match readFields readItem bound rest with
              | none => none
              | some (fields, rest) => some ((String.ofList name, value) :: fields, rest)
            | '\x7d' :: rest => some ([(String.ofList name, value)], rest)
            | _ => none
        | _ => none
    | _ => none

def readName (name : String) (value : Json) (text : List Char) : Option (Json × List Char) :=
  if name.toList.isPrefixOf text then some (value, text.drop name.length) else none

def readScalar : List Char → Option (Json × List Char)
  | 'n' :: rest => readName "ull" .null rest
  | 't' :: rest => readName "rue" (.bool true) rest
  | 'f' :: rest => readName "alse" (.bool false) rest
  | '"' :: rest => (readString rest).map fun (text, rest) => (.string (String.ofList text), rest)
  | text => readNumber text

def readValue : Nat → List Char → Option (Json × List Char)
  | 0, '[' :: _ => none
  | 0, '\x7b' :: _ => none
  | levels + 1, '[' :: rest =>
    match skipSpace rest with
    | ']' :: rest => some (.list [], rest)
    | text => (readItems (readValue levels) (text.length + 1) text).map
        fun (items, rest) => (.list items, rest)
  | levels + 1, '\x7b' :: rest =>
    match skipSpace rest with
    | '\x7d' :: rest => some (.object [], rest)
    | text => (readFields (readValue levels) (text.length + 1) text).map
        fun (fields, rest) => (.object fields, rest)
  | _, text => readScalar text

def readChars (text : List Char) : Option Json :=
  match readValue deepest (skipSpace text) with
  | none => none
  | some (value, rest) => if (skipSpace rest).isEmpty then some value else none

def read (bytes : Bytes) : Option Json := (Bytes.text? bytes).bind fun text => readChars text.toList

end Parley.Json
