import Parley.Fault
import Parley.Json.Reader
import Parley.Message

/-!
The written form of messages: a sixteen-bit length, then a JSON object whose field "type" names
the message. Byte fields are hexadecimal text.
-/

namespace Parley.Message

def bytesJson (bytes : Bytes) : Json := .string (Hex.encode bytes)

def fields : Message → List (String × Json)
  | .hello protocol user nonce =>
    [("protocol", .string protocol), ("user", .string user), ("nonce", bytesJson nonce)]
  | .challenge server nonce none => [("server", .string server), ("nonce", bytesJson nonce)]
  | .challenge server nonce (some tag) =>
    [("server", .string server), ("nonce", bytesJson nonce), ("proof", bytesJson tag)]
  | .proof tag => [("proof", bytesJson tag)]
  | .verdict accepted reason => [("accepted", .bool accepted), ("reason", .string reason)]
  | .offer protocols => [("protocols", .list (protocols.map .string))]
  | .choice protocol => [("protocol", .string protocol)]

def toJson (message : Message) : Json := .object (("type", .string message.name) :: message.fields)

def body (message : Message) : Bytes := Bytes.ofText message.toJson.render

def encode (message : Message) : Except Fault Bytes :=
  let body := message.body
  if longestBody < body.length then
    .error (.malformed (.longBody message.name body.length))
  else .ok (Bytes.word16 body.length ++ body)

/-- The value of a field, if any; none at all if the field is repeated. -/
def field? (name : String) (fields : List (String × Json)) : Option (Option Json) :=
  match fields.filter (fun field => field.1 = name) with
  | [] => some none
  | [field] => some (some field.2)
  | _ => none

def fieldValues? (names : List String) (fields : List (String × Json)) :
    Option (List (Option Json)) :=
  names.mapM (fun name => field? name fields)

def text? : Option Json → Option String
  | some (.string text) => some text
  | _ => none

def bytes? (value : Option Json) : Option Bytes :=
  (text? value).bind fun text => (Hex.decode text).toOption

def optionalBytes? : Option Json → Option (Option Bytes)
  | none => some none
  | some .null => some none
  | value => (bytes? value).map some

def flag? : Option Json → Option Bool
  | some (.bool value) => some value
  | _ => none

def optionalText? : Option Json → Option String
  | none => some ""
  | value => text? value

def texts? : Option Json → Option (List String)
  | some (.list items) => items.mapM (fun item => text? (some item))
  | _ => none

def fieldNames : String → Option (List String)
  | "hello" => some ["protocol", "user", "nonce"]
  | "challenge" => some ["server", "nonce", "proof"]
  | "proof" => some ["proof"]
  | "verdict" => some ["accepted", "reason"]
  | "offer" => some ["protocols"]
  | "choice" => some ["protocol"]
  | _ => none

def ofValues? : String → List (Option Json) → Option Message
  | "hello", [protocol, user, nonce] => do
    some (.hello (← text? protocol) (← text? user) (← bytes? nonce))
  | "challenge", [server, nonce, tag] => do
    some (.challenge (← text? server) (← bytes? nonce) (← optionalBytes? tag))
  | "proof", [tag] => do some (.proof (← bytes? tag))
  | "verdict", [accepted, reason] => do
    some (.verdict (← flag? accepted) (← optionalText? reason))
  | "offer", [protocols] => do some (.offer (← texts? protocols))
  | "choice", [protocol] => do some (.choice (← text? protocol))
  | _, _ => none

def padValues? (count : Nat) (items : List Json) : Option (List (Option Json)) :=
  if count < items.length then none
  else some (items.map some ++ List.replicate (count - items.length) none)

/--
Reads a message from JSON: an object with the name among its fields, where fields that the message
does not have are passed over, or a list of the name and the values of its fields.
-/
def ofJson? : Json → Option Message
  | .object fields => do
    let name ← text? (← field? "type" fields)
    let names ← fieldNames name
    ofValues? name (← fieldValues? names fields)
  | .list (.string name :: items) => do
    let names ← fieldNames name
    ofValues? name (← padValues? names.length items)
  | _ => none

def decode (body : Bytes) : Except Fault Message :=
  match (Json.read body).bind ofJson? with
  | some message => .ok message
  | none => .error (.malformed .unreadable)

end Parley.Message
