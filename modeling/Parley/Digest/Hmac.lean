import Parley.Digest.Sha256

/-!
Keyed tags: HMAC with SHA-256.
-/

namespace Parley.Hmac

/-- A key brought to the length of a block; a longer key is hashed first. -/
def blockKey (key : Bytes) : Bytes :=
  let short := if 64 < key.length then Sha256.hash key else key
  short ++ List.replicate (64 - short.length) 0

def tag (key message : Bytes) : Bytes :=
  let block := blockKey key
  let inner := Sha256.hash (block.map (· ^^^ 0x36) ++ message)
  Sha256.hash (block.map (· ^^^ 0x5c) ++ inner)

end Parley.Hmac
