import Parley.SharedKey.Client
import Parley.SharedKey.Server
import Parley.SharedKey.Setup

/-!
The shared-key handlers. The client says hello with its nonce, the server challenges it with a
nonce of its own and, in the mutual variant, with a proof, the client sends its proof, and the
server gives its verdict. A side that rejects the other sends a rejecting verdict before it fails.
Both sides work through blobs, and they can take over the channel.
-/

namespace Parley.SharedKey

variable {κ : Type} [KeyStore κ]

/-- Makes sure that something is queued; an answer of pending data says that there is. -/
def prepare (handler : SharedKey) (supplies : Supplies κ) : SharedKey × Supplies κ × Answer :=
  if !handler.outbox.isEmpty || handler.afterSend.isSome then
    (handler, supplies, .ok .pendingData)
  else
    match handler.lifecycle.role, handler.step with
    | none, _ => (handler, supplies, .ok .noIdentity)
    | some .client, .start =>
      match handler.user with
      | none => (handler, supplies, .ok .noIdentity)
      | some user => handler.sayHello user supplies
    | some .server, .start => ({ handler with step := .awaitHello }, supplies, .ok .needData)
    | _, _ => (handler, supplies, .ok .needData)

def flush (handler : SharedKey) (blob : Blob) : SharedKey × Blob × Mode :=
  let (outbox, blob) := handler.outbox.fill blob
  if outbox.isEmpty then
    let (lifecycle, mode) := handler.lifecycle.apply (handler.afterSend.getD .await)
    ({ handler with outbox, afterSend := none, lifecycle }, blob, mode)
  else ({ handler with outbox }, blob, .continue)

def write (handler : SharedKey) (blob : Blob) (supplies : Supplies κ) :
    Turn (Supplies κ) SharedKey :=
  match handler.prepare supplies with
  | (handler, supplies, .ok .pendingData) =>
    let (handler, blob, mode) := handler.flush blob
    ⟨.ok mode, handler, blob, supplies⟩
  | (handler, supplies, answer) => ⟨answer, handler, blob, supplies⟩

def onMessage (handler : SharedKey) (message : Message) (supplies : Supplies κ) :
    SharedKey × Supplies κ × Answer :=
  match handler.lifecycle.role with
  | some .client =>
    let (handler, answer) := handler.onClientMessage message
    (handler, supplies, answer)
  | some .server => handler.onServerMessage message supplies
  | none => (handler, supplies, .ok .noIdentity)

/-- The message to handle next: one that had to wait, or else the next one of the inbox. -/
def nextMessage (handler : SharedKey) : Except Fault (Option (Message × SharedKey)) :=
  match handler.deferred with
  | some message => .ok (some (message, { handler with deferred := none }))
  | none =>
    match handler.inbox.next with
    | .error fault => .error fault
    | .ok none => .ok none
    | .ok (some (message, inbox)) => .ok (some (message, { handler with inbox }))

def read (handler : SharedKey) (blob : Blob) (supplies : Supplies κ) :
    Turn (Supplies κ) SharedKey :=
  let (inbox, blob) := handler.inbox.absorb blob
  let handler := { handler with inbox }
  match handler.nextMessage with
  | .error fault => ⟨.error fault, handler, blob, supplies⟩
  | .ok none => ⟨.ok .needData, handler, blob, supplies⟩
  | .ok (some (message, handler)) =>
    let (handler, supplies, answer) := handler.onMessage message supplies
    let answer :=
      match answer with
      | .ok .needData => if handler.inbox.isEmpty then .ok .needData else .ok .continue
      | answer => answer
    ⟨answer, handler, blob, supplies⟩

def settle (handler : SharedKey) (answer : Answer) : SharedKey :=
  { handler with lifecycle := handler.lifecycle.settle answer }

def call (work : SharedKey → Blob → Supplies κ → Turn (Supplies κ) SharedKey)
    (handler : SharedKey) (blob : Blob) (supplies : Supplies κ) : Turn (Supplies κ) SharedKey :=
  match handler.lifecycle.enter .blob with
  | (lifecycle, some answer) => ⟨answer, { handler with lifecycle }, blob, supplies⟩
  | (lifecycle, none) =>
    let turn := work { handler with lifecycle } blob supplies
    { turn with handler := turn.handler.settle turn.answer }

def takeOver (handler : SharedKey) (supplies : Supplies κ) : Stretch (Supplies κ) SharedKey :=
  match handler.lifecycle.enter .takeover with
  | (lifecycle, answer) =>
    let handler := { handler with lifecycle }
    match answer with
    | some answer => ⟨handler, supplies, .done (handler, some answer)⟩
    | none =>
      let handler := { handler with desk := Blob.blank takeoverCapacity }
      ⟨handler, supplies, .done (handler, none)⟩

def finishTakeover (handler : SharedKey) (answer : Answer) :
    Dialogue (SharedKey × Option Answer) :=
  .done (handler.settle answer, some answer)

def obey (handler : SharedKey) : Mode → Dialogue (SharedKey × Option Answer)
  | .needData =>
    (Frame.receive handler.desk.capacity).bind fun
      | .error fault => handler.finishTakeover (.error fault)
      | .ok frame =>
        .done ({ handler with desk := handler.desk.load frame, consuming := true }, none)
  | .pendingData => .done ({ handler with consuming := false }, none)
  | .continue => .done (handler, none)
  | .noMoreData =>
    if handler.lifecycle.face.credential.isSome then handler.finishTakeover (.ok .success)
    else
      .done ({ handler with
          lifecycle := handler.lifecycle.fail "exchange ended without an outcome" },
        some (.ok .failed))
  | mode => handler.finishTakeover (.ok mode)

/-- One round of a takeover: consume or produce, send what was produced, and obey the mode. -/
def carryOn (handler : SharedKey) (supplies : Supplies κ) : Stretch (Supplies κ) SharedKey :=
  let turn :=
    if handler.consuming then handler.read handler.desk supplies
    else handler.write handler.desk.clear supplies
  let sends := !handler.consuming && !turn.blob.isEmpty
  let handler := { turn.handler with desk := turn.blob }
  { handler
    surroundings := turn.surroundings
    dialogue :=
      match turn.answer with
      | .error fault => handler.finishTakeover (.error fault)
      | .ok mode =>
        if sends then
          (Frame.send turn.blob.contents).bind fun
            | .error fault => handler.finishTakeover (.error fault)
            | .ok () => handler.obey mode
        else handler.obey mode }

instance : Handler (Supplies κ) SharedKey where
  init := init
  initFrom := initFrom
  produce := call write
  consume := call read
  takeOver := takeOver
  carryOn := carryOn

end Parley.SharedKey
