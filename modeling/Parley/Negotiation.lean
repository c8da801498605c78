import Parley.Clock
import Parley.Outcome
import Parley.Registry
import Parley.Settings

/-!
Negotiations. A negotiation asks the registry for a handler, initialises it, exchanges data with
the peer until the handler stops, and follows delegations to fresh handlers. It proceeds from phase
to phase; what it does between two phases is an action for others to carry out.
-/

namespace Parley

inductive Start where
  | live (identity : Option Identity) (role : Role)
  | declared (attributes : Attributes)

/-- Whether the first handler works through blobs or takes over the channel. -/
inductive Route where
  | blobs
  | direct
  deriving DecidableEq, Repr

inductive Call where
  | produce
  | consume
  deriving DecidableEq, Repr

structure BlobLoop (σ : Type) where
  handler : σ
  chain : List String
  call : Call
  blob : Blob

inductive Phase (σ : Type) where
  | opening
  | claiming (next : Phase σ)
  | calling (loop : BlobLoop σ)
  | obeying (loop : BlobLoop σ) (mode : Mode)
  | stopped (handler : σ) (chain : List String) (mode : Mode)
  /-- Let the handler take over the channel, by a new call or within the open one. -/
  | takingOver (handler : σ) (fresh : Bool)
  /-- Deal with a handler whose takeover has ended, the channel still being leased. -/
  | tookOver (handler : σ) (mode : Mode)
  /-- Deal with a handler whose takeover has ended, the channel being free again. -/
  | tookOverFree (handler : σ) (mode : Mode)
  /-- Nothing: the negotiation is over. -/
  | over (result : Except Fault Outcome)

inductive Action (α : Type) where
  | talk (dialogue : Dialogue α)
  | pause (seconds : Nat) (next : α)
  | lease (next : Bool → α)
  | release (next : α)
  | stop (result : Except Fault Outcome)

/-- A negotiation: what was asked for, the handlers and the clock there are, and what is next. -/
structure Negotiation (σ : Type) where
  protocol : String
  start : Start
  route : Route
  settings : Settings
  registry : Registry σ
  clock : Clock := .punctual
  phase : Phase σ := .opening

structure Advance (ω σ : Type) where
  registry : Registry σ
  surroundings : ω
  action : Action (Phase σ)

namespace Negotiation

variable {ω σ : Type} [HasFace σ] [Handler ω σ]

def goOn (phase : Phase σ) : Action (Phase σ) := .talk (.done phase)

def conclude (handler : σ) (mode : Mode) : Phase σ :=
  .over (.ok (Outcome.conclude (face handler) mode))

/-- The blob loop of a fresh handler; it begins by producing. -/
def loopOf (settings : Settings) (handler : σ) (chain : List String) : Phase σ :=
  .calling ⟨handler, chain, .produce, Blob.blank settings.blobCapacity⟩

def prepare (negotiation : Negotiation σ) (surroundings : ω) :
    Except Fault (Initialised ω σ) × Registry σ :=
  match negotiation.registry.create negotiation.protocol with
  | (.error fault, registry) => (.error fault, registry)
  | (.ok handler, registry) =>
    match negotiation.start with
    | .live identity role => (.ok (Handler.init handler identity role surroundings), registry)
    | .declared attributes => (.ok (Handler.initFrom handler attributes surroundings), registry)

def enter (negotiation : Negotiation σ) (next : σ → Phase σ) (surroundings : ω) : Advance ω σ :=
  match negotiation.prepare surroundings with
  | (.error fault, registry) => ⟨registry, surroundings, goOn (.over (.error fault))⟩
  | (.ok initialised, registry) =>
    let phase :=
      if initialised.accepted then next initialised.handler
      else conclude initialised.handler .noIdentity
    ⟨registry, initialised.surroundings, goOn phase⟩

/-- The successor that a delegating handler names, if the negotiation may go on with it. -/
def successor (negotiation : Negotiation σ) (handler : σ) (chain : List String) :
    Except Fault String :=
  let name := (face handler).info.getD ""
  if name = (face handler).protocol then .error (.selfDelegation name)
  else if chain.contains name then .error (.delegationCycle (chain ++ [name]))
  else if negotiation.settings.maxDelegations < chain.length then
    .error (.tooManyDelegations negotiation.settings.maxDelegations (chain ++ [name]))
  else if !negotiation.registry.contains name then .error (.unknownProtocol name)
  else .ok name

def follow (negotiation : Negotiation σ) (handler : σ) (chain : List String)
    (surroundings : ω) : Advance ω σ :=
  match negotiation.successor handler chain with
  | .error fault => ⟨negotiation.registry, surroundings, goOn (.over (.error fault))⟩
  | .ok name =>
    let identity := (face handler).identity.map fun identity => identity.rescoped name
    match (face handler).role with
    | none => ⟨negotiation.registry, surroundings, goOn (conclude handler .noIdentity)⟩
    | some role =>
      match negotiation.registry.create name with
      | (.error fault, registry) => ⟨registry, surroundings, goOn (.over (.error fault))⟩
      | (.ok next, registry) =>
        let initialised : Initialised ω σ := Handler.init next identity role surroundings
        let phase :=
          if initialised.accepted then
            loopOf negotiation.settings initialised.handler (chain ++ [name])
          else conclude initialised.handler .noIdentity
        ⟨registry, initialised.surroundings, goOn phase⟩

def callHandler (loop : BlobLoop σ) (surroundings : ω) : ω × Action (Phase σ) :=
  let turn : Turn ω σ :=
    match loop.call with
    | .produce => Handler.produce loop.handler loop.blob.clear surroundings
    | .consume => Handler.consume loop.handler loop.blob surroundings
  let loop := { loop with handler := turn.handler, blob := turn.blob }
  (turn.surroundings,
    match turn.answer with
    | .error fault => goOn (.over (.error fault))
    | .ok mode =>
      if loop.call = .produce ∧ !loop.blob.isEmpty then
        .talk ((Frame.send loop.blob.contents).bind fun
          | .error fault => .done (.over (.error fault))
          | .ok () => .done (.obeying loop mode))
      else goOn (.obeying loop mode))

def obey (loop : BlobLoop σ) : Mode → Action (Phase σ)
  | .needData =>
    .talk ((Frame.receive loop.blob.capacity).bind fun
      | .error fault => .done (.over (.error fault))
      | .ok frame => .done (.calling { loop with blob := loop.blob.load frame, call := .consume }))
  | .pendingData => goOn (.calling { loop with call := .produce })
  | .continue => goOn (.calling loop)
  | .wait seconds => .pause seconds (.calling loop)
  | mode => goOn (.stopped loop.handler loop.chain mode)

def takeOver (handler : σ) (fresh : Bool) (surroundings : ω) : ω × Action (Phase σ) :=
  let stretch : Stretch ω σ :=
    if fresh then Handler.takeOver handler surroundings
    else Handler.carryOn handler surroundings
  (stretch.surroundings,
    .talk (stretch.dialogue.bind fun
      | (handler, none) => .done (.takingOver handler false)
      | (_, some (.error fault)) => .done (.over (.error fault))
      | (handler, some (.ok mode)) => .done (.tookOver handler mode)))

def advance (negotiation : Negotiation σ) (surroundings : ω) : Advance ω σ :=
  let keep (result : ω × Action (Phase σ)) : Advance ω σ :=
    ⟨negotiation.registry, result.1, result.2⟩
  match negotiation.phase with
  | .opening =>
    match negotiation.route with
    | .blobs =>
      negotiation.enter (fun handler => loopOf negotiation.settings handler [negotiation.protocol])
        surroundings
    | .direct =>
      negotiation.enter (fun handler => .claiming (.takingOver handler true)) surroundings
  | .claiming next =>
    keep (surroundings,
      .lease fun granted => if granted then next else .over (.error .channelBusy))
  | .calling loop => keep (callHandler loop surroundings)
  | .obeying loop mode => keep (surroundings, obey loop mode)
  | .stopped handler chain .delegated => negotiation.follow handler chain surroundings
  | .stopped handler _ mode => keep (surroundings, goOn (conclude handler mode))
  | .takingOver handler fresh => keep (takeOver handler fresh surroundings)
  | .tookOver handler (.wait seconds) =>
    keep (surroundings, .pause seconds (.takingOver handler true))
  | .tookOver handler mode => keep (surroundings, .release (.tookOverFree handler mode))
  | .tookOverFree _ .notSupported =>
    negotiation.enter
      (fun handler => .claiming (loopOf negotiation.settings handler [negotiation.protocol]))
      surroundings
  | .tookOverFree handler .delegated =>
    keep (surroundings, goOn (.claiming (.stopped handler [negotiation.protocol] .delegated)))
  | .tookOverFree handler mode => keep (surroundings, goOn (conclude handler mode))
  | .over result => keep (surroundings, .stop result)

end Negotiation

end Parley
