import Parley.Bytes
import Parley.Json
import Parley.Text.Quoted

/-!
Credentials: what a handler holds once it has authenticated its peer.
-/

namespace Parley

structure Credential where
  peer : String
  protocol : String
  sessionKey : Bytes
  deriving DecidableEq, Repr

namespace Credential

def summary (credential : Credential) : Json :=
  .object [("peer", .string credential.peer), ("auth_protocol", .string credential.protocol)]

/-- A credential as diagnostic text with the given form of its time; the key is not shown. -/
def describe (credential : Credential) (time : String) : String :=
  "Credential \x7b peer: " ++ Text.quote credential.peer ++
    ", auth_protocol: " ++ Text.quote credential.protocol ++
    ", established_at: " ++ time ++
    ", session_key: " ++ Text.quote "[redacted]" ++ " \x7d"

end Credential

end Parley
