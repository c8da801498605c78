import Parley.Json

/-!
Identities: a principal's name together with the protocol it is scoped to.
-/

namespace Parley

structure Identity where
  name : String
  protocol : String
  deriving DecidableEq, Repr

namespace Identity

def rescoped (identity : Identity) (protocol : String) : Identity := ⟨identity.name, protocol⟩

def text (identity : Identity) : String := identity.name ++ "@" ++ identity.protocol

def toJson (identity : Identity) : Json :=
  .object [("name", .string identity.name), ("auth_protocol", .string identity.protocol)]

def onlyField? (name : String) (fields : List (String × Json)) : Option Json :=
  match fields.filter (fun field => field.1 = name) with
  | [field] => some field.2
  | _ => none

def ofJson? : Json → Option Identity
  | .object fields =>
    match onlyField? "name" fields, onlyField? "auth_protocol" fields with
    | some (.string name), some (.string protocol) => some ⟨name, protocol⟩
    | _, _ => none
  | .list [.string name, .string protocol] => some ⟨name, protocol⟩
  | _ => none

end Identity

end Parley
