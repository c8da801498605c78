import Parley.Proofs.SharedKey.Blobs
import Parley.Proofs.SharedKey.Dress
import Parley.Proofs.SharedKey.Session

/-!
Twins: two handlers with the same exchange behind them, one in a takeover and the other one called
through blobs. What one writes or reads in a round of its takeover the other writes or reads in a
call.
-/

namespace Parley.SharedKey

variable {κ : Type}

/-! ## Blobs of one capacity -/

def pending (blob : Blob) : Bytes := blob.contents.drop blob.position

theorem fill_capacity (outbox : Outbox) {first second : Blob}
    (capacity : first.capacity = second.capacity) :
    (outbox.fill first.clear).1 = (outbox.fill second.clear).1 ∧
      (outbox.fill first.clear).2.contents = (outbox.fill second.clear).2.contents := by
  obtain ⟨one, contents, _⟩ := Outbox.fill_clear outbox.bytes first
  obtain ⟨two, others, _⟩ := Outbox.fill_clear outbox.bytes second
  rw [capacity] at one contents
  exact ⟨one.trans two.symm, contents.trans others.symm⟩

structure SameTurn {ω σ : Type} (first second : Turn ω σ) : Prop where
  answer : first.answer = second.answer
  handler : first.handler = second.handler
  surroundings : first.surroundings = second.surroundings
  contents : first.blob.contents = second.blob.contents

theorem flush_capacity (handler : SharedKey) {first second : Blob}
    (capacity : first.capacity = second.capacity) :
    (handler.flush first.clear).1 = (handler.flush second.clear).1 ∧
      (handler.flush first.clear).2.1.contents = (handler.flush second.clear).2.1.contents ∧
      (handler.flush first.clear).2.2 = (handler.flush second.clear).2.2 ∧
      (handler.flush first.clear).2.1.capacity = first.capacity := by
  obtain ⟨outbox, contents⟩ := fill_capacity handler.outbox capacity
  have kept : (handler.outbox.fill first.clear).2.capacity = first.capacity :=
    (Outbox.fill_clear handler.outbox.bytes first).2.2
  simp only [flush, outbox]
  split
  · exact ⟨rfl, contents, rfl, kept⟩
  · exact ⟨rfl, contents, rfl, kept⟩

theorem write_capacity [KeyStore κ] (handler : SharedKey) (supplies : Supplies κ)
    {first second : Blob} (capacity : first.capacity = second.capacity) :
    SameTurn (handler.write first.clear supplies) (handler.write second.clear supplies) ∧
      (handler.write first.clear supplies).blob.capacity = first.capacity := by
  simp only [write]
  split
  · obtain ⟨same, contents, mode, kept⟩ := flush_capacity ‹_› capacity
    exact ⟨⟨congrArg Except.ok mode, same, rfl, contents⟩, kept⟩
  · exact ⟨⟨rfl, rfl, rfl, rfl⟩, Blob.capacity_clear first⟩

theorem read_pending [KeyStore κ] (handler : SharedKey) (supplies : Supplies κ)
    {first second : Blob} (same : pending first = pending second) :
    (handler.read first supplies).answer = (handler.read second supplies).answer ∧
      (handler.read first supplies).handler = (handler.read second supplies).handler ∧
      (handler.read first supplies).surroundings = (handler.read second supplies).surroundings := by
  have received : (handler.inbox.absorb first).1 = (handler.inbox.absorb second).1 :=
    congrArg (fun bytes => Inbox.mk (handler.inbox.bytes ++ bytes)) same
  simp only [read, received]
  split <;> exact ⟨rfl, rfl, rfl⟩

/-! ## Rounds of a takeover -/

def round [KeyStore κ] (handler : SharedKey) (supplies : Supplies κ) :
    Turn (Supplies κ) SharedKey :=
  if handler.consuming then handler.read handler.desk supplies
  else handler.write handler.desk.clear supplies

def closeRound (handler : SharedKey) (turn : Turn (Supplies κ) SharedKey) :
    Dialogue (SharedKey × Option Answer) :=
  let next := { turn.handler with desk := turn.blob }
  match turn.answer with
  | .error fault => next.finishTakeover (.error fault)
  | .ok mode =>
    if !handler.consuming && !turn.blob.isEmpty then
      (Frame.send turn.blob.contents).bind fun
        | .error fault => next.finishTakeover (.error fault)
        | .ok () => next.obey mode
    else next.obey mode

theorem carryOn_eq [KeyStore κ] (handler : SharedKey) (supplies : Supplies κ) :
    handler.carryOn supplies =
      ⟨{ (handler.round supplies).handler with desk := (handler.round supplies).blob },
        (handler.round supplies).surroundings, handler.closeRound (handler.round supplies)⟩ := rfl

theorem worked_round [KeyStore κ] (handler : SharedKey) (supplies : Supplies κ) :
    Lifecycle.Worked handler.lifecycle (handler.round supplies).handler.lifecycle
      (handler.round supplies).answer := by
  rw [round]
  split
  · exact (reading_read handler _ supplies).worked
  · exact (writing_write handler _ supplies).worked

theorem consuming_read [KeyStore κ] (handler : SharedKey) (blob : Blob) (supplies : Supplies κ) :
    (handler.read blob supplies).handler.consuming = handler.consuming := by
  have own : handler.dress handler.lifecycle.exchange handler.desk handler.consuming = handler :=
    rfl
  have read := read_dress handler.lifecycle.exchange handler.desk handler.consuming handler blob
    supplies
  rw [own] at read
  exact congrArg (·.handler.consuming) read

theorem consuming_write (handler : SharedKey) (blob : Blob) (supplies : Supplies κ) :
    (handler.write blob supplies).handler.consuming = handler.consuming :=
  congrArg (·.handler.consuming) (write_self handler blob supplies)

theorem consuming_round [KeyStore κ] (handler : SharedKey) (supplies : Supplies κ) :
    (handler.round supplies).handler.consuming = handler.consuming := by
  rw [round]
  split
  · exact consuming_read handler handler.desk supplies
  · exact consuming_write handler handler.desk.clear supplies

/-! ## Twins -/

/-- The second is what the first is, but called through blobs. -/
structure Twins (first second : SharedKey) : Prop where
  stage : first.lifecycle.stage = .exchanging
  exchange : first.lifecycle.exchange = some .takeover
  entered : second.lifecycle.enter .blob =
    ({ first.lifecycle with exchange := some .blob }, none)
  dressed : { second with lifecycle := { first.lifecycle with exchange := some .blob } } =
    first.dress (some .blob) second.desk second.consuming

variable {first second : SharedKey} [KeyStore κ]

theorem Twins.produce (twins : Twins first second) (blob : Blob) (supplies : Supplies κ) :
    Handler.produce second blob supplies =
      let turn := first.write blob supplies
      ⟨turn.answer,
        (turn.handler.dress (some .blob) second.desk second.consuming).settle turn.answer,
        turn.blob, turn.surroundings⟩ := by
  have called : Handler.produce second blob supplies = call write second blob supplies := rfl
  rw [called, call, twins.entered]
  dsimp only
  rw [twins.dressed, write_dress]
  rfl

theorem Twins.consume (twins : Twins first second) (blob : Blob) (supplies : Supplies κ) :
    Handler.consume second blob supplies =
      let turn := first.read blob supplies
      ⟨turn.answer,
        (turn.handler.dress (some .blob) second.desk second.consuming).settle turn.answer,
        turn.blob, turn.surroundings⟩ := by
  have called : Handler.consume second blob supplies = call read second blob supplies := rfl
  rw [called, call, twins.entered]
  dsimp only
  rw [twins.dressed, read_dress]
  rfl

omit [KeyStore κ] in
theorem twins_dress {handler : SharedKey} (stage : handler.lifecycle.stage = .exchanging)
    (exchange : handler.lifecycle.exchange = some .takeover) (desk : Blob) (consuming : Bool) :
    Twins handler (handler.dress (some .blob) desk consuming) := by
  refine ⟨stage, exchange, ?_, rfl⟩
  have engaged : Engaged (handler.dress (some .blob) desk consuming) := ⟨stage, rfl⟩
  exact engaged.enter

omit [KeyStore κ] in
theorem Twins.redesk (twins : Twins first second) (desk : Blob) (consuming : Bool) :
    Twins { first with desk, consuming } second :=
  ⟨twins.stage, twins.exchange, twins.entered, twins.dressed⟩

omit [KeyStore κ] in
theorem takeOver_of_enter {handler : SharedKey} {lifecycle : Lifecycle}
    (entered : handler.lifecycle.enter .takeover = (lifecycle, none)) (supplies : Supplies κ) :
    handler.takeOver supplies =
      let opened := { handler with lifecycle, desk := Blob.blank takeoverCapacity }
      ⟨opened, supplies, .done (opened, none)⟩ := by
  rw [takeOver, entered]

omit [KeyStore κ] in
theorem Twins.enter (twins : Twins first second) :
    first.lifecycle.enter .takeover = (first.lifecycle, none) := by
  have stage := twins.stage
  have exchange := twins.exchange
  rcases first with ⟨⟨face, _, _⟩⟩
  subst stage exchange
  rfl

theorem pending_blank (capacity : Nat) : pending (Blob.blank capacity) = [] := rfl

end Parley.SharedKey
