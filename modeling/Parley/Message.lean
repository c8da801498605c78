import Parley.Bytes

/-!
Handshake messages.
-/

namespace Parley

inductive Message where
  | hello (protocol user : String) (nonce : Bytes)
  /-- The server answers with its nonce and, for mutual protocols, its proof. -/
  | challenge (server : String) (nonce : Bytes) (proof : Option Bytes)
  | proof (tag : Bytes)
  | verdict (accepted : Bool) (reason : String)
  | offer (protocols : List String)
  | choice (protocol : String)
  deriving DecidableEq, Repr

namespace Message

def name : Message → String
  | .hello .. => "hello"
  | .challenge .. => "challenge"
  | .proof .. => "proof"
  | .verdict .. => "verdict"
  | .offer .. => "offer"
  | .choice .. => "choice"

end Message

end Parley
