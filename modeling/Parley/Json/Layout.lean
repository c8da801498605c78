import Parley.Dictionary
import Parley.Json

/-!
JSON text for people: fields in the order of their names, each on a line of its own.
-/

namespace Parley.Json

def newLine (level : Nat) : String := "\n" ++ String.ofList (List.replicate (2 * level) ' ')

mutual

def sorted : Json → Json
  | .list items => .list (sortedItems items)
  | .object fields => .object (Dictionary.ofList (sortedFields fields)).entries
  | value => value

def sortedItems : List Json → List Json
  | [] => []
  | item :: rest => sorted item :: sortedItems rest

def sortedFields : List (String × Json) → List (String × Json)
  | [] => []
  | (name, value) :: rest => (name, sorted value) :: sortedFields rest

end

mutual

def layout (level : Nat) : Json → String
  | .list [] => "[]"
  | .list (item :: rest) =>
    "[" ++ newLine (level + 1) ++ layout (level + 1) item ++ layoutItems (level + 1) rest ++
      newLine level ++ "]"
  | .object [] => "\x7b\x7d"
  | .object ((name, value) :: rest) =>
    "\x7b" ++ newLine (level + 1) ++ render (.string name) ++ ": " ++ layout (level + 1) value ++
      layoutFields (level + 1) rest ++ newLine level ++ "\x7d"
  | value => render value

def layoutItems (level : Nat) : List Json → String
  | [] => ""
  | item :: rest => "," ++ newLine level ++ layout level item ++ layoutItems level rest

def layoutFields (level : Nat) : List (String × Json) → String
  | [] => ""
  | (name, value) :: rest =>
    "," ++ newLine level ++ render (.string name) ++ ": " ++ layout level value ++
      layoutFields level rest

end

def pretty (value : Json) : String := layout 0 (sorted value)

end Parley.Json
