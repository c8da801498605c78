import Parley.Dictionary
import Parley.Fault
import Parley.Text.Blank

/-!
Attributes: named settings for declarative initialisation. A list of attributes is written as
words, pairs and pairs with a quoted value, between blanks; in a quoted value a quote is written
twice.
-/

namespace Parley

abbrev Attributes := Dictionary String

namespace Attributes

/-- The value of an attribute; an empty value counts as missing. -/
def required (attributes : Attributes) (name : String) : Except Fault String :=
  match attributes.get? name with
  | some value => if value.isEmpty then .error (.missingAttribute name) else .ok value
  | none => .error (.missingAttribute name)

def isNameChar (char : Char) : Bool := char != '=' && !Text.isBlank char

def isBareChar (char : Char) : Bool := !Text.isBlank char

def push (char : Char) : Option (List Char × List Char) → Option (List Char × List Char)
  | none => none
  | some (value, rest) => some (char :: value, rest)

def readQuoted : List Char → Option (List Char × List Char)
  | '\'' :: '\'' :: rest => push '\'' (readQuoted rest)
  | '\'' :: rest => some ([], rest)
  | char :: rest => push char (readQuoted rest)
  | [] => none

def readValue : List Char → Option (List Char × List Char)
  | '\'' :: rest => readQuoted rest
  | text => some (text.takeWhile isBareChar, text.dropWhile isBareChar)

def readItem (text : List Char) : Except Fault ((String × String) × List Char) :=
  let name := String.ofList (text.takeWhile isNameChar)
  match text.dropWhile isNameChar with
  | '=' :: rest =>
    match readValue rest with
    | none => .error (.invalidAttribute name .unterminatedQuote)
    | some (value, rest) =>
      if name.isEmpty then .error (.invalidAttribute "" .emptyName)
      else .ok ((name, String.ofList value), rest)
  | rest => .ok ((name, ""), rest)

/-- Reads attributes until the text ends; the bound counts attributes. -/
def readItems : Nat → Attributes → List Char → Except Fault Attributes
  | 0, attributes, _ => .ok attributes
  | bound + 1, attributes, text =>
    match text.dropWhile Text.isBlank with
    | [] => .ok attributes
    | text =>
      match readItem text with
      | .error fault => .error fault
      | .ok (item, rest) => readItems bound (attributes.insert item.1 item.2) rest

/-- Reads a list of attributes; the last value of a name stays. -/
def parse (text : String) : Except Fault Attributes :=
  readItems text.toList.length Dictionary.empty text.toList

def role (attributes : Attributes) : Except Fault Role :=
  match attributes.get? "role" with
  | none => .ok .client
  | some text =>
    match Role.parse text with
    | .ok role => .ok role
    | .error lower => .error (.invalidAttribute "role" (.unknownRole lower))

def checkProtocol (attributes : Attributes) (protocol : String) : Except Fault Unit :=
  match attributes.get? "proto" with
  | none => .ok ()
  | some actual =>
    if actual = protocol then .ok ()
    else .error (.invalidAttribute "proto" (.otherProtocol protocol actual))

end Attributes

end Parley
