import Parley.Exchange

/-!
Schedules of exchanges. An exchange settles if every order of its calls comes to an end, each time
in an exchange of the same kind.
-/

namespace Parley

def Role.peer : Role → Role
  | .client => .server
  | .server => .client

@[simp] theorem Role.peer_peer (side : Role) : side.peer.peer = side := by
  cases side <;> rfl

namespace Exchange

variable {κ σ : Type} [HasFace σ] [Handler (Supplies κ) σ]

/-- Every order of calls comes to an end, in an exchange of the given kind. -/
inductive Settles (kind : Exchange κ σ → Prop) : Exchange κ σ → Prop
  | intro {exchange : Exchange κ σ}
      (calls : ∀ side entry next, exchange.call side = some (entry, next) → Settles kind next)
      (ends : (∀ side, exchange.call side = none) → kind exchange) : Settles kind exchange

inductive Reaches (start : Exchange κ σ) : Exchange κ σ → Prop
  | start : Reaches start start
  | call {exchange next : Exchange κ σ} {side : Role} {entry : ExchangeEntry} :
      Reaches start exchange → exchange.call side = some (entry, next) → Reaches start next

variable {kind : Exchange κ σ → Prop} {start last : Exchange κ σ}

theorem Settles.next {side : Role} {entry : ExchangeEntry} (settles : Settles kind start)
    (called : start.call side = some (entry, last)) : Settles kind last := by
  cases settles with
  | intro calls _ => exact calls side entry last called

theorem Settles.imp {other : Exchange κ σ → Prop} (settles : Settles kind start)
    (implies : ∀ last, kind last → other last) : Settles other start := by
  induction settles with
  | intro _ ends ih => exact .intro ih fun stuck => implies _ (ends stuck)

theorem Settles.of_reaches (settles : Settles kind start) (reaches : Reaches start last) :
    Settles kind last := by
  induction reaches with
  | start => exact settles
  | call _ called ih => exact ih.next called

theorem Settles.no_infinite_run (settles : Settles kind start) :
    ¬ ∃ run : Nat → Exchange κ σ, run 0 = start ∧
      ∀ count, ∃ side entry, (run count).call side = some (entry, run (count + 1)) := by
  induction settles with
  | intro calls _ ih =>
      rintro ⟨run, rfl, goes⟩
      obtain ⟨side, entry, called⟩ := goes 0
      exact ih side entry (run 1) called
        ⟨fun count => run (count + 1), rfl, fun count => goes (count + 1)⟩

theorem Settles.of_stuck (settles : Settles kind start) (reaches : Reaches start last)
    (stuck : ∀ side, last.call side = none) : kind last := by
  cases settles.of_reaches reaches with
  | intro _ ends => exact ends stuck

/-! ## Either side -/

def party (exchange : Exchange κ σ) : Role → Party κ σ
  | .client => exchange.client
  | .server => exchange.server

def frames (exchange : Exchange κ σ) : Role → List Bytes
  | .client => exchange.toClient
  | .server => exchange.toServer

def place (exchange : Exchange κ σ) (turn : PartyTurn κ σ) : Role → Exchange κ σ
  | .client =>
    { exchange with
      client := turn.party
      nonces := turn.nonces
      toClient := turn.queue
      toServer := exchange.toServer ++ turn.sent.toList }
  | .server =>
    { exchange with
      server := turn.party
      nonces := turn.nonces
      toServer := turn.queue
      toClient := exchange.toClient ++ turn.sent.toList }

variable (exchange : Exchange κ σ) (turn : PartyTurn κ σ) (side : Role)

theorem call_eq :
    exchange.call side =
      ((exchange.party side).call exchange.nonces (exchange.frames side)).map fun turn =>
        (⟨side, turn.answer, turn.sent⟩, exchange.place turn side) := by
  cases side <;> rfl

omit [HasFace σ] [Handler (Supplies κ) σ] in
@[simp] theorem party_place : (exchange.place turn side).party side = turn.party := by
  cases side <;> rfl

omit [HasFace σ] [Handler (Supplies κ) σ] in
@[simp] theorem party_place_peer :
    (exchange.place turn side).party side.peer = exchange.party side.peer := by
  cases side <;> rfl

omit [HasFace σ] [Handler (Supplies κ) σ] in
@[simp] theorem frames_place : (exchange.place turn side).frames side = turn.queue := by
  cases side <;> rfl

omit [HasFace σ] [Handler (Supplies κ) σ] in
@[simp] theorem frames_place_peer :
    (exchange.place turn side).frames side.peer =
      exchange.frames side.peer ++ turn.sent.toList := by
  cases side <;> rfl

omit [HasFace σ] [Handler (Supplies κ) σ] in
@[simp] theorem nonces_place : (exchange.place turn side).nonces = turn.nonces := by
  cases side <;> rfl

/-- An exchange settles if it settles after the next call of each side that can make one. -/
theorem settles_of_parties {kind : Exchange κ σ → Prop} {exchange : Exchange κ σ} (side : Role)
    (own : ∀ turn, (exchange.party side).call exchange.nonces (exchange.frames side) = some turn →
      Settles kind (exchange.place turn side))
    (other : ∀ turn,
      (exchange.party side.peer).call exchange.nonces (exchange.frames side.peer) = some turn →
      Settles kind (exchange.place turn side.peer))
    (ends : (exchange.party side).call exchange.nonces (exchange.frames side) = none →
      (exchange.party side.peer).call exchange.nonces (exchange.frames side.peer) = none →
      kind exchange) : Settles kind exchange := by
  have either (goal : Role → Prop) (here : goal side) (there : goal side.peer) (any : Role) :
      goal any := by
    cases side <;> cases any <;> assumption
  refine .intro (fun any entry next called => ?_) fun stuck => ?_
  · rw [call_eq, Option.map_eq_some_iff] at called
    obtain ⟨turn, called, same⟩ := called
    obtain ⟨_, rfl⟩ := Prod.mk.inj same
    exact either
      (fun any => ∀ turn,
        (exchange.party any).call exchange.nonces (exchange.frames any) = some turn →
        Settles kind (exchange.place turn any)) own other any turn called
  · refine ends ?_ ?_
    · have here := stuck side
      rwa [call_eq, Option.map_eq_none_iff] at here
    · have there := stuck side.peer
      rwa [call_eq, Option.map_eq_none_iff] at there

end Exchange

end Parley
