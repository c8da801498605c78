import Parley.Digest.Hmac
import Parley.Keys

/-!
Transcripts: the bytes that the tags of a shared-key handshake are made over. Each part stands
after its length, so no part can pass for another.
-/

namespace Parley

inductive Variant where
  | p9sk1
  | p9sk2
  deriving DecidableEq, Repr

namespace Variant

def protocol : Variant → String
  | .p9sk1 => "p9sk1"
  | .p9sk2 => "p9sk2"

def isMutual : Variant → Bool
  | .p9sk1 => true
  | .p9sk2 => false

end Variant

inductive Purpose where
  | server
  | client
  | session
  deriving DecidableEq, Repr

namespace Purpose

def label : Purpose → String
  | .server => "server"
  | .client => "client"
  | .session => "session"

end Purpose

/-- What a tag vouches for: a purpose under a protocol, two nonces and a user. -/
structure Transcript where
  variant : Variant
  purpose : Purpose
  first : Bytes
  second : Bytes
  user : String
  deriving DecidableEq

namespace Transcript

def parts (transcript : Transcript) : List Bytes :=
  [Bytes.ofText transcript.variant.protocol, Bytes.ofText transcript.purpose.label,
    transcript.first, transcript.second, Bytes.ofText transcript.user]

def encode (transcript : Transcript) : Bytes :=
  transcript.parts.flatMap fun part => Bytes.word16 part.length ++ part

def tag (transcript : Transcript) (key : SecretKey) : Bytes := Hmac.tag key.bytes transcript.encode

end Transcript

end Parley
