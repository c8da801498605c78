import Parley.Json
import Parley.Text.Blank

/-!
Roles: the two sides of a handshake.
-/

namespace Parley

inductive Role where
  | client
  | server
  deriving DecidableEq, Repr

namespace Role

def text : Role → String
  | .client => "client"
  | .server => "server"

def ofName? (name : String) : Option Role :=
  if name = "client" then some .client
  else if name = "server" then some .server
  else none

/-- Reads a role whatever the case of its letters; a refusal gives the text in lower case. -/
def parse (text : String) : Except String Role :=
  let lower := Text.lowerAscii text
  match ofName? lower with
  | some role => .ok role
  | none => .error lower

def unknownMessage (text : String) : String := "unknown role '" ++ text ++ "'"

def ofJson? : Json → Option Role
  | .string name => ofName? name
  | _ => none

end Role

end Parley
