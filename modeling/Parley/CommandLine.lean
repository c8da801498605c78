import Parley.Negotiation.Pair

/-!
The command line: a self-check that lets a client and a server negotiate with each other in one
process. The arguments are attributes; the settings come from the environment.
-/

namespace Parley.CommandLine

def defaultUser : String := "glenda"

def freshKeyLength : Nat := 32

def stepBound : Nat := 1000000

inductive Failure where
  | fault (cause : Fault)
  | unsuccessful
  deriving DecidableEq

namespace Failure

def message : Failure → String
  | .fault cause => cause.message
  | .unsuccessful => "loopback negotiation did not succeed"

end Failure

structure Report where
  output : Option Json := none
  failure : Option Failure := none

namespace Report

def exitCode (report : Report) : Nat := if report.failure.isSome then 1 else 0

end Report

structure Request where
  protocol : String
  user : String
  key : SecretKey
  preferences : Option String
  takeover : Bool

namespace Request

def parse (arguments : List String) (freshKey : Bytes) : Except Fault Request := do
  let attributes ← Attributes.parse (" ".intercalate arguments)
  let key ← match attributes.get? "key" with
    | some text => SecretKey.ofHex text
    | none => .ok ⟨freshKey⟩
  return {
    protocol := (attributes.get? "proto").getD Envelope.protocol
    user := ((attributes.get? "user").filter (fun user => !user.isEmpty)).getD defaultUser
    key
    preferences := attributes.get? "protocols"
    takeover := attributes.get? "takeover" == some "true" }

def clientAttributes (request : Request) : Attributes :=
  Dictionary.ofList
    ([("proto", request.protocol), ("user", request.user), ("role", Role.client.text)] ++
      (request.preferences.map fun text => ("protocols", text)).toList)

/-- How the client's handler is initialised: a takeover does not go through attributes. -/
def clientStart (request : Request) : Start :=
  if request.takeover then .live (some ⟨request.user, request.protocol⟩) .client
  else .declared request.clientAttributes

def pair (request : Request) (settings : Settings) (nonces : NonceSupply) :
    Pair MemoryKeys BuiltIn :=
  let keys := MemoryKeys.insert {} request.user request.key
  let side (start : Start) (place : End) : Side MemoryKeys BuiltIn :=
    Side.starting
      { protocol := request.protocol
        start
        route := if request.takeover then .direct else .blobs
        settings
        registry := Registry.standard }
      keys { channel := place } none 0
  { left := side request.clientStart .left
    right := side (.live none .server) .right
    common := { duplex := Duplex.ofCapacity (some (settings.blobCapacity * 2)), nonces } }

def output (request : Request) (client server : Outcome) : Json :=
  .object [("client", client.report), ("protocol", .string request.protocol),
    ("server", server.report), ("takeover", .bool request.takeover)]

/-- What comes of the results of both sides; a fault of the client goes first. -/
def report (request : Request) : Except Fault Outcome → Except Fault Outcome → Report
  | .error fault, _ => { failure := some (.fault fault) }
  | .ok _, .error fault => { failure := some (.fault fault) }
  | .ok client, .ok server =>
    { output := some (request.output client server)
      failure := if client.isSuccess && server.isSuccess then none else some .unsuccessful }

end Request

def run (arguments : List String) (environment : Environment) (freshKey : Bytes)
    (nonces : NonceSupply) : Report :=
  match Request.parse arguments freshKey with
  | .error fault => { failure := some (.fault fault) }
  | .ok request =>
    let pair := request.pair (Settings.fromEnvironment environment) nonces
    match pair.run stepBound with
    | none => { failure := some .unsuccessful }
    | some pair =>
      match pair.left.result?, pair.right.result? with
      | some client, some server => request.report client server
      | _, _ => { failure := some .unsuccessful }

end Parley.CommandLine
