import Parley.Handler
import Parley.Keys

/-!
Exchanges: two handlers in one process that pass each other blobs, without a driver between them.
Each side makes one call in its turn.
-/

namespace Parley

inductive NextCall where
  | produce
  | receive
  | consume
  deriving DecidableEq, Repr

structure Party (κ σ : Type) where
  handler : σ
  keys : κ
  blob : Blob
  next : NextCall := .produce
  outcome : Option Answer := none

structure PartyTurn (κ σ : Type) where
  party : Party κ σ
  nonces : NonceSupply
  queue : List Bytes
  answer : Answer
  sent : Option Bytes

namespace Party

variable {κ σ : Type} [HasFace σ] [Handler (Supplies κ) σ]

def react (next : NextCall) : Answer → NextCall × Option Answer
  | .ok .needData => (.receive, none)
  | .ok .pendingData => (.produce, none)
  | .ok .continue | .ok (.wait _) => (if next = .receive then .consume else next, none)
  | answer => (next, some answer)

def after (party : Party κ σ) (turn : Turn (Supplies κ) σ) (queue : List Bytes)
    (sent : Option Bytes) : PartyTurn κ σ :=
  let (next, outcome) := react party.next turn.answer
  { party :=
      { handler := turn.handler, keys := turn.surroundings.keys, blob := turn.blob, next, outcome }
    nonces := turn.surroundings.nonces
    queue
    answer := turn.answer
    sent }

def sending (turn : Turn (Supplies κ) σ) : Option Bytes :=
  match turn.answer with
  | .error _ => none
  | .ok _ => if turn.blob.isEmpty then none else some turn.blob.contents

def call (party : Party κ σ) (nonces : NonceSupply) (queue : List Bytes) :
    Option (PartyTurn κ σ) :=
  let supplies : Supplies κ := ⟨nonces, party.keys⟩
  if party.outcome.isSome then none
  else
    match party.next, queue with
    | .produce, queue =>
      let turn : Turn (Supplies κ) σ := Handler.produce party.handler party.blob.clear supplies
      some (party.after turn queue (sending turn))
    | .receive, [] => none
    | .receive, frame :: queue =>
      some (party.after (Handler.consume party.handler (party.blob.load frame) supplies) queue none)
    | .consume, queue =>
      some (party.after (Handler.consume party.handler party.blob supplies) queue none)

end Party

/-- Two parties, the frames on their way to each, and the nonces that both draw from. -/
structure Exchange (κ σ : Type) where
  client : Party κ σ
  server : Party κ σ
  toClient : List Bytes := []
  toServer : List Bytes := []
  nonces : NonceSupply

structure ExchangeEntry where
  side : Role
  answer : Answer
  sent : Option Bytes

namespace Exchange

variable {κ σ : Type} [HasFace σ] [Handler (Supplies κ) σ]

def call (exchange : Exchange κ σ) : Role → Option (ExchangeEntry × Exchange κ σ)
  | .client =>
    (exchange.client.call exchange.nonces exchange.toClient).map fun turn =>
      (⟨.client, turn.answer, turn.sent⟩,
        { exchange with
          client := turn.party
          nonces := turn.nonces
          toClient := turn.queue
          toServer := exchange.toServer ++ turn.sent.toList })
  | .server =>
    (exchange.server.call exchange.nonces exchange.toServer).map fun turn =>
      (⟨.server, turn.answer, turn.sent⟩,
        { exchange with
          server := turn.party
          nonces := turn.nonces
          toServer := turn.queue
          toClient := exchange.toClient ++ turn.sent.toList })

def attempt (exchange : Exchange κ σ) (side : Role) : List ExchangeEntry × Exchange κ σ :=
  match exchange.call side with
  | some (entry, exchange) => ([entry], exchange)
  | none => ([], exchange)

/-- Rounds of one call each, client first, until a round has no call or no round is left. -/
def run : Nat → Exchange κ σ → List ExchangeEntry × Exchange κ σ
  | 0, exchange => ([], exchange)
  | rounds + 1, exchange =>
    let (first, exchange) := exchange.attempt .client
    let (second, exchange) := exchange.attempt .server
    if first.isEmpty && second.isEmpty then ([], exchange)
    else
      let (log, exchange) := run rounds exchange
      (first ++ second ++ log, exchange)

end Exchange

end Parley
