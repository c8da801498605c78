/-!
JSON values and their compact text.
-/

namespace Parley

/-- A JSON value; the fields of an object keep their order and may repeat a name. -/
inductive Json where
  | null
  | bool (value : Bool)
  | integer (value : Int)
  | decimal (numeral : String)
  | string (text : String)
  | list (items : List Json)
  | object (fields : List (String × Json))

namespace Json

def escapeChar (char : Char) : List Char :=
  if char = '"' then ['\\', '"']
  else if char = '\\' then ['\\', '\\']
  else if char = '\x08' then ['\\', 'b']
  else if char = '\x0c' then ['\\', 'f']
  else if char = '\n' then ['\\', 'n']
  else if char = '\r' then ['\\', 'r']
  else if char = '\t' then ['\\', 't']
  else if char.toNat < 32 then
    ['\\', 'u', '0', '0', Nat.digitChar (char.toNat / 16), Nat.digitChar (char.toNat % 16)]
  else [char]

def quoteChars (text : List Char) : List Char := '"' :: text.flatMap escapeChar ++ ['"']

mutual

def chars : Json → List Char
  | .null => "null".toList
  | .bool true => "true".toList
  | .bool false => "false".toList
  | .integer value => (toString value).toList
  | .decimal numeral => numeral.toList
  | .string text => quoteChars text.toList
  | .list items => '[' :: itemChars items ++ [']']
  | .object fields => '\x7b' :: fieldChars fields ++ ['\x7d']

def itemChars : List Json → List Char
  | [] => []
  | [item] => chars item
  | item :: second :: rest => chars item ++ ',' :: itemChars (second :: rest)

def fieldChars : List (String × Json) → List Char
  | [] => []
  | [(name, value)] => quoteChars name.toList ++ ':' :: chars value
  | (name, value) :: second :: rest =>
    quoteChars name.toList ++ ':' :: chars value ++ ',' :: fieldChars (second :: rest)

end

def render (value : Json) : String := String.ofList (chars value)

end Json

end Parley
