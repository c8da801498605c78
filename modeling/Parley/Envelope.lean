import Parley.Handler
import Parley.Keys
import Parley.Message.Inbox
import Parley.Message.Outbox

/-!
The envelope: the server offers protocols, the client picks the first of its own that is offered,
and both sides delegate to it. The envelope only works through blobs.
-/

namespace Parley

structure Envelope where
  lifecycle : Lifecycle
  /-- What the server offers, or what the client accepts in order of preference. -/
  protocols : List String
  inbox : Inbox := {}
  outbox : Outbox := {}
  afterSend : Option Settlement := none
  started : Bool := false

namespace Envelope

variable {ω : Type}

def protocol : String := "p9any"

def addProtocol (protocols : List String) (name : String) : List String :=
  let name := Text.trim name
  if name.isEmpty || name == protocol || protocols.contains name then protocols
  else protocols ++ [name]

/-- The protocols of a list, trimmed, without empty ones, the envelope's own and repetitions. -/
def normalize (names : List String) : List String := names.foldl addProtocol []

def fresh (names : List String) : Envelope :=
  { lifecycle := Lifecycle.fresh protocol, protocols := normalize names }

instance : HasFace Envelope := ⟨fun handler => handler.lifecycle.face⟩

/-! Initialisation -/

def refuse (handler : Envelope) (reason : String) (surroundings : ω) : Initialised ω Envelope :=
  ⟨false, { handler with lifecycle := handler.lifecycle.refuse reason }, surroundings⟩

def admits (handler : Envelope) (identity : Identity) : Bool :=
  identity.protocol == protocol || handler.protocols.contains identity.protocol

def init (handler : Envelope) (identity : Option Identity) (role : Role) (surroundings : ω) :
    Initialised ω Envelope :=
  if handler.protocols.isEmpty then handler.refuse "no protocols to negotiate" surroundings
  else
    match identity.filter (fun identity => !handler.admits identity) with
    | some foreign =>
      handler.refuse ("identity " ++ foreign.text ++ " is not usable inside " ++ protocol)
        surroundings
    | none =>
      if role = .client ∧ identity.isNone then
        handler.refuse "client role requires an identity" surroundings
      else
        ⟨true, { handler with lifecycle := handler.lifecycle.bind identity role }, surroundings⟩

def separates (char : Char) : Bool := char == ',' || char == ' '

def configureProtocols (handler : Envelope) (attributes : Attributes) : Except Fault Envelope :=
  match attributes.get? "protocols" with
  | none => .ok handler
  | some text =>
    let protocols := normalize (Text.split separates text)
    if protocols.isEmpty then .error (.invalidAttribute "protocols" .noProtocols)
    else .ok { handler with protocols }

/-- Prepares a handshake from attributes; listed protocols stay even if the user is missing. -/
def initFrom (handler : Envelope) (attributes : Attributes) (surroundings : ω) :
    Initialised ω Envelope :=
  match attributes.checkProtocol protocol with
  | .error fault => handler.refuse fault.message surroundings
  | .ok () =>
    match attributes.role with
    | .error fault => handler.refuse fault.message surroundings
    | .ok role =>
      match handler.configureProtocols attributes with
      | .error fault => handler.refuse fault.message surroundings
      | .ok handler =>
        match attributes.required "user" with
        | .error fault => handler.refuse fault.message surroundings
        | .ok user => handler.init (some ⟨user, protocol⟩) role surroundings

/-! Messages -/

def reply (handler : Envelope) (message : Message) (settlement : Settlement) :
    Envelope × Answer :=
  match handler.outbox.queue message with
  | .error fault => (handler, .error fault)
  | .ok outbox => ({ handler with outbox, afterSend := some settlement }, .ok .pendingData)

def onChoice (handler : Envelope) (choice : String) : Envelope × Answer :=
  if choice.isEmpty then
    ({ handler with lifecycle := handler.lifecycle.fail "client found no common protocol" },
      .ok .failed)
  else if handler.protocols.contains choice then
    ({ handler with lifecycle := handler.lifecycle.delegate choice }, .ok .delegated)
  else
    ({ handler with
        lifecycle :=
          handler.lifecycle.fail ("client chose " ++ choice ++ " which was not offered") },
      .ok .failed)

/-- The client's answer to an offer: its first protocol that is offered, or an empty choice. -/
def onOffer (handler : Envelope) (offered : List String) : Envelope × Answer :=
  match handler.protocols.find? offered.contains with
  | some choice => handler.reply (.choice choice) (.delegate choice)
  | none =>
    handler.reply (.choice "")
      (.fail ("no common protocol: server offered [" ++ " ".intercalate offered ++
        "], client accepts [" ++ " ".intercalate handler.protocols ++ "]"))

def onMessage (handler : Envelope) (message : Message) : Envelope × Answer :=
  match handler.lifecycle.role, message with
  | some .server, .choice choice => handler.onChoice choice
  | some .client, .offer offered => handler.onOffer offered
  | none, _ => (handler, .ok .noIdentity)
  | _, message =>
    (handler, .error (.malformed (.unexpected message.name ("in " ++ protocol ++ " envelope"))))

/-! Calls -/

/-- Makes sure that something is queued; an answer of pending data says that there is. -/
def prepare (handler : Envelope) : Envelope × Answer :=
  if !handler.outbox.isEmpty || handler.afterSend.isSome then (handler, .ok .pendingData)
  else if handler.started || handler.lifecycle.role ≠ some .server then
    ({ handler with started := true }, .ok .needData)
  else { handler with started := true }.reply (.offer handler.protocols) .await

def flush (handler : Envelope) (blob : Blob) : Envelope × Blob × Mode :=
  let (outbox, blob) := handler.outbox.fill blob
  if outbox.isEmpty then
    let (lifecycle, mode) := handler.lifecycle.apply (handler.afterSend.getD .await)
    ({ handler with outbox, afterSend := none, lifecycle }, blob, mode)
  else ({ handler with outbox }, blob, .continue)

def write (handler : Envelope) (blob : Blob) (surroundings : ω) : Turn ω Envelope :=
  match handler.prepare with
  | (handler, .ok .pendingData) =>
    let (handler, blob, mode) := handler.flush blob
    ⟨.ok mode, handler, blob, surroundings⟩
  | (handler, answer) => ⟨answer, handler, blob, surroundings⟩

def read (handler : Envelope) (blob : Blob) (surroundings : ω) : Turn ω Envelope :=
  let (inbox, blob) := handler.inbox.absorb blob
  match inbox.next with
  | .error fault => ⟨.error fault, { handler with inbox }, blob, surroundings⟩
  | .ok none => ⟨.ok .needData, { handler with inbox }, blob, surroundings⟩
  | .ok (some (message, inbox)) =>
    let (handler, answer) := { handler with inbox }.onMessage message
    ⟨answer, handler, blob, surroundings⟩

def settle (handler : Envelope) (answer : Answer) : Envelope :=
  { handler with lifecycle := handler.lifecycle.settle answer }

def call (work : Envelope → Blob → ω → Turn ω Envelope) (handler : Envelope) (blob : Blob)
    (surroundings : ω) : Turn ω Envelope :=
  match handler.lifecycle.enter .blob with
  | (lifecycle, some answer) => ⟨answer, { handler with lifecycle }, blob, surroundings⟩
  | (lifecycle, none) =>
    let turn := work { handler with lifecycle } blob surroundings
    { turn with handler := turn.handler.settle turn.answer }

def takeOver (handler : Envelope) (surroundings : ω) : Stretch ω Envelope :=
  match handler.lifecycle.enter .takeover with
  | (lifecycle, some answer) =>
    let handler := { handler with lifecycle }
    ⟨handler, surroundings, .done (handler, some answer)⟩
  | (lifecycle, none) =>
    let handler := { handler with lifecycle := lifecycle.decline }
    ⟨handler, surroundings, .done (handler, some (.ok .notSupported))⟩

instance : Handler ω Envelope where
  init := init
  initFrom := initFrom
  produce := call write
  consume := call read
  takeOver := takeOver
  carryOn := takeOver

end Envelope

end Parley
