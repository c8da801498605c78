import Parley.Handler

/-!
Rehearsed handlers: they answer from lists that are written beforehand, whatever the peer sends.
They stand in for any protocol when a driver is tried out.
-/

namespace Parley

/-- One answer and what it changes first; a change that is absent leaves things as they are. -/
structure Cue where
  answer : Answer
  data : Bytes := []
  info : Option (Option String) := none
  credential : Option (Option Credential) := none

/-- The answers to one kind of call; the last one repeats, and without any the call fails. -/
structure Part where
  cues : List Cue := []

namespace Part

def next (part : Part) : Cue × Part :=
  match part.cues with
  | [] => ({ answer := .ok .failed }, part)
  | [cue] => (cue, part)
  | cue :: rest => (cue, { cues := rest })

end Part

structure Rehearsed where
  face : Face
  accepts : Bool := true
  forgetsRole : Bool := false
  producing : Part := {}
  consuming : Part := {}
  takingOver : Part := {}

namespace Rehearsed

variable {ω : Type}

instance : HasFace Rehearsed := ⟨Rehearsed.face⟩

def init (handler : Rehearsed) (identity : Option Identity) (role : Role) (surroundings : ω) :
    Initialised ω Rehearsed :=
  let role := if handler.forgetsRole then none else some role
  ⟨handler.accepts, { handler with face := { handler.face with identity, role } }, surroundings⟩

/-- Prepares the client's side for the user of the attributes, whatever else they say. -/
def initFrom (handler : Rehearsed) (attributes : Attributes) (surroundings : ω) :
    Initialised ω Rehearsed :=
  let identity := (attributes.get? "user").map fun user => ⟨user, handler.face.protocol⟩
  handler.init identity .client surroundings

def follow (handler : Rehearsed) (cue : Cue) : Rehearsed :=
  { handler with
    face := { handler.face with
      info := cue.info.getD handler.face.info
      credential := cue.credential.getD handler.face.credential } }

def perform (handler : Rehearsed) (cue : Cue) (blob : Blob) (surroundings : ω) :
    Turn ω Rehearsed :=
  ⟨cue.answer, handler.follow cue, (blob.write cue.data).2, surroundings⟩

def takeOver (handler : Rehearsed) (surroundings : ω) : Stretch ω Rehearsed :=
  let (cue, takingOver) := handler.takingOver.next
  let handler := { handler with takingOver }.follow cue
  ⟨handler, surroundings, .done (handler, some cue.answer)⟩

instance : Handler ω Rehearsed where
  init := init
  initFrom := initFrom
  produce handler blob surroundings :=
    let (cue, producing) := handler.producing.next
    { handler with producing }.perform cue blob surroundings
  consume handler blob surroundings :=
    let (cue, consuming) := handler.consuming.next
    { handler with consuming }.perform cue blob surroundings
  takeOver := takeOver
  carryOn := takeOver

end Rehearsed

end Parley
