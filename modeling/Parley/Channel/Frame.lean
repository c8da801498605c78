import Parley.Channel.Dialogue

/-!
Frames: payloads on a byte channel, each after its length in four bytes.
-/

namespace Parley.Frame

def headerLength : Nat := 4

def encode (payload : Bytes) : Bytes := Bytes.word32 payload.length ++ payload

def longestPayload : Nat := 4294967295

def send (payload : Bytes) : Dialogue (Except Fault Unit) :=
  if longestPayload < payload.length then
    .done (.error (.frameTooLarge payload.length longestPayload))
  else
    .write (encode payload) fun
      | .ok () => .done (.ok ())
      | .error error => .done (.error (.transport error))

/-- Reads until the given number of bytes is there; the bound counts reads. -/
def gather : Nat → Nat → Bytes → Dialogue (Except Fault Bytes)
  | 0, _, gathered => .done (.ok gathered)
  | bound + 1, missing, gathered =>
    if missing = 0 then .done (.ok gathered)
    else
      .read missing fun
        | .error error => .done (.error (.transport error))
        | .ok [] => .done (.error .channelClosed)
        | .ok bytes => gather bound (missing - bytes.length) (gathered ++ bytes)

def readExactly (count : Nat) : Dialogue (Except Fault Bytes) := gather count count []

def receive (limit : Nat) : Dialogue (Except Fault Bytes) :=
  (readExactly headerLength).bind fun
    | .error fault => .done (.error fault)
    | .ok header =>
      let length := Bytes.number header
      if limit < length then .done (.error (.frameTooLarge length limit))
      else readExactly length

end Parley.Frame
