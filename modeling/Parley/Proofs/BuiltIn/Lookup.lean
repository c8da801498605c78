import Parley.Proofs.BuiltIn.Contract
import Parley.Proofs.SharedKey.Waiting

/-!
When built-in handlers ask for keys. The envelope never does, and a shared-key server only for the
user of a hello. Nothing else depends on the keys, and no other call asks to wait.
-/

namespace Parley

open Lifecycle

namespace Envelope

variable {κ : Type} (handler : Envelope) (blob : Blob) (supplies : Supplies κ) (keys : κ)

theorem write_stock :
    handler.write blob (supplies.stock keys) = (handler.write blob supplies).stock keys := by
  rw [write, write]
  rcases handler.prepare with ⟨next, _ | mode⟩
  · rfl
  · cases mode <;> rfl

theorem read_stock :
    handler.read blob (supplies.stock keys) = (handler.read blob supplies).stock keys := by
  simp only [read]
  split <;> rfl

theorem call_stock (work : Envelope → Blob → Supplies κ → Turn (Supplies κ) Envelope)
    (stocked : ∀ handler,
      work handler blob (supplies.stock keys) = (work handler blob supplies).stock keys) :
    handler.call work blob (supplies.stock keys) = (handler.call work blob supplies).stock keys := by
  rw [call, call]
  rcases handler.lifecycle.enter .blob with ⟨lifecycle, _ | answer⟩
  · dsimp only
    rw [stocked]
    rfl
  · rfl

theorem takeOver_stock :
    handler.takeOver (supplies.stock keys) = (handler.takeOver supplies).stock keys := by
  rw [takeOver, takeOver]
  rcases handler.lifecycle.enter .takeover with ⟨lifecycle, _ | answer⟩ <;> rfl

theorem init_stock (identity : Option Identity) (role : Role) :
    handler.init identity role (supplies.stock keys) =
      (handler.init identity role supplies).stock keys := by
  rw [init, init]
  split
  · rfl
  · split
    · rfl
    · split <;> rfl

theorem initFrom_stock (attributes : Attributes) :
    handler.initFrom attributes (supplies.stock keys) =
      (handler.initFrom attributes supplies).stock keys := by
  rw [initFrom, initFrom]
  split
  · rfl
  · split
    · rfl
    · split
      · rfl
      · split
        · rfl
        · exact init_stock _ supplies keys _ _

theorem role_init {identity : Option Identity} {role : Role}
    (accepted : (handler.init identity role supplies).accepted = true) :
    (handler.init identity role supplies).handler.lifecycle.role = some role := by
  revert accepted
  rw [init]
  split
  · rintro ⟨⟩
  · split
    · rintro ⟨⟩
    · split
      · rintro ⟨⟩
      · exact fun _ => rfl

theorem role_initFrom {attributes : Attributes}
    (serves : ∀ role, attributes.role = .ok role → role = .server)
    (accepted : (handler.initFrom attributes supplies).accepted = true) :
    (handler.initFrom attributes supplies).handler.lifecycle.role = some .server := by
  revert accepted
  rw [initFrom]
  split
  · rintro ⟨⟩
  · split
    · rintro ⟨⟩
    · rename_i role given
      obtain rfl := serves role given
      split
      · rintro ⟨⟩
      · split
        · rintro ⟨⟩
        · exact role_init _ supplies

end Envelope

namespace BuiltIn

variable {κ : Type} [KeyStore κ]

/-- The user whose key a handler asks for when it consumes a blob. -/
def callSeeks? : BuiltIn → Blob → Option String
  | .inl handler, blob =>
    if (handler.lifecycle.enter .blob).2.isNone then handler.seeks? blob else none
  | .inr _, _ => none

def roundSeeks? : BuiltIn → Option String
  | .inl handler => if handler.consuming then handler.seeks? handler.desk else none
  | .inr _ => none

/-! ## Calls -/

section

variable (handler : BuiltIn) (blob : Blob) (supplies : Supplies κ) (keys : κ)

theorem produce_stock :
    Handler.produce handler blob (supplies.stock keys) =
      (Handler.produce handler blob supplies).stock keys := by
  cases handler with
  | inl handler =>
      have stocked := handler.call_stock blob supplies keys SharedKey.write
        fun _ _ => SharedKey.write_stock _ blob supplies keys
      exact congrArg (Handler.mapTurn Sum.inl) stocked
  | inr handler =>
      have stocked := handler.call_stock blob supplies keys Envelope.write
        fun handler => handler.write_stock blob supplies keys
      exact congrArg (Handler.mapTurn Sum.inr) stocked

theorem consume_stock (unsought : handler.callSeeks? blob = none) :
    Handler.consume handler blob (supplies.stock keys) =
      (Handler.consume handler blob supplies).stock keys := by
  cases handler with
  | inl handler =>
      have stocked := handler.call_stock blob supplies keys SharedKey.read
        fun lifecycle entered => by
          apply SharedKey.read_stock
          have role : lifecycle.role = handler.lifecycle.role := (entry_enter entered).role
          have same := handler.seeks?_with role handler.desk blob
          rw [callSeeks?, entered] at unsought
          exact same.trans unsought
      exact congrArg (Handler.mapTurn Sum.inl) stocked
  | inr handler =>
      have stocked := handler.call_stock blob supplies keys Envelope.read
        fun handler => handler.read_stock blob supplies keys
      exact congrArg (Handler.mapTurn Sum.inr) stocked

theorem takeOver_stock :
    Handler.takeOver handler (supplies.stock keys) =
      (Handler.takeOver handler supplies).stock keys := by
  cases handler with
  | inl handler => exact congrArg (Handler.mapStretch Sum.inl) (handler.takeOver_stock supplies keys)
  | inr handler => exact congrArg (Handler.mapStretch Sum.inr) (handler.takeOver_stock supplies keys)

theorem carryOn_stock (unsought : handler.roundSeeks? = none) :
    Handler.carryOn handler (supplies.stock keys) =
      (Handler.carryOn handler supplies).stock keys := by
  cases handler with
  | inl handler =>
      have stocked := handler.carryOn_stock supplies keys fun consuming => by
        rwa [roundSeeks?, if_pos consuming] at unsought
      exact congrArg (Handler.mapStretch Sum.inl) stocked
  | inr handler => exact congrArg (Handler.mapStretch Sum.inr) (handler.takeOver_stock supplies keys)

theorem init_stock (identity : Option Identity) :
    Handler.init handler identity .server (supplies.stock keys) =
      (Handler.init handler identity .server supplies).stock keys := by
  cases handler with
  | inl handler =>
      exact congrArg (Handler.mapInitialised Sum.inl) (handler.init_stock supplies keys identity)
  | inr handler =>
      exact congrArg (Handler.mapInitialised Sum.inr)
        (handler.init_stock supplies keys identity .server)

theorem initFrom_stock {attributes : Attributes}
    (serves : ∀ role, attributes.role = .ok role → role = .server) :
    Handler.initFrom handler attributes (supplies.stock keys) =
      (Handler.initFrom handler attributes supplies).stock keys := by
  cases handler with
  | inl handler =>
      exact congrArg (Handler.mapInitialised Sum.inl) (handler.initFrom_stock supplies keys serves)
  | inr handler =>
      exact congrArg (Handler.mapInitialised Sum.inr)
        (handler.initFrom_stock supplies keys attributes)

end

variable {handler next : BuiltIn} {blob : Blob} {supplies : Supplies κ}

theorem role_init {identity : Option Identity}
    (accepted : (Handler.init handler identity .server supplies).accepted = true) :
    (face (Handler.init handler identity .server supplies).handler).role = some .server := by
  cases handler with
  | inl handler => exact handler.role_init supplies accepted
  | inr handler => exact handler.role_init supplies accepted

theorem role_initFrom {attributes : Attributes}
    (serves : ∀ role, attributes.role = .ok role → role = .server)
    (accepted : (Handler.initFrom handler attributes supplies).accepted = true) :
    (face (Handler.initFrom handler attributes supplies).handler).role = some .server := by
  cases handler with
  | inl handler => exact handler.role_initFrom supplies serves accepted
  | inr handler => exact handler.role_initFrom supplies serves accepted

/-! ## Waits -/

theorem answer_produce_ne_wait (honest : handler.Honest) (still : handler.lifecycle.Open .blob)
    (seconds : Nat) : (Handler.produce handler blob supplies).answer ≠ .ok (.wait seconds) := by
  cases handler with
  | inl handler =>
      have called := SharedKey.call_of_open SharedKey.write blob supplies still
      have stays := (handler.letIn .blob).answer_write_ne_wait blob supplies seconds
      rw [← congrArg Turn.answer called] at stays
      exact stays
  | inr handler =>
      have called := Envelope.call_of_open Envelope.write blob supplies still
      have modest := Envelope.Honest.modest_letIn honest
      have stays := (Envelope.earnest_write modest blob supplies).awake seconds
      rw [← congrArg Turn.answer called] at stays
      exact stays

theorem answer_consume_ne_wait (honest : handler.Honest) (still : handler.lifecycle.Open .blob)
    (unsought : handler.callSeeks? blob = none) (seconds : Nat) :
    (Handler.consume handler blob supplies).answer ≠ .ok (.wait seconds) := by
  cases handler with
  | inl handler =>
      have called := SharedKey.call_of_open SharedKey.read blob supplies still
      have nothing : (handler.letIn .blob).seeks? blob = none := by
        have entered : handler.lifecycle.enter .blob = _ := Open.enter still
        rw [callSeeks?, entered] at unsought
        exact (handler.seeks?_with rfl _ _).trans unsought
      have stays := (handler.letIn .blob).answer_read_ne_wait blob supplies nothing seconds
      rw [← congrArg Turn.answer called] at stays
      exact stays
  | inr handler =>
      have called := Envelope.call_of_open Envelope.read blob supplies still
      have modest := Envelope.Honest.modest_letIn honest
      have stays := (Envelope.earnest_read modest blob supplies).awake seconds
      rw [← congrArg Turn.answer called] at stays
      exact stays

theorem given_takeOver_ne_wait (still : handler.lifecycle.Open .takeover) {given : Option Answer}
    (leads : (Handler.takeOver handler supplies).dialogue.Leads (next, given)) (seconds : Nat) :
    given ≠ some (.ok (.wait seconds)) := by
  cases handler with
  | inl handler =>
      obtain ⟨⟨inner, answer⟩, talked, last⟩ := Dialogue.leads_bind_iff.mp leads
      cases Dialogue.leads_done_iff.mp last
      have began : Handler.takeOver handler supplies = _ :=
        SharedKey.takeOver_of_enter (Open.enter still) supplies
      rw [began] at talked
      cases Dialogue.leads_done_iff.mp talked
      rintro ⟨⟩
  | inr handler =>
      obtain ⟨⟨inner, answer⟩, talked, last⟩ := Dialogue.leads_bind_iff.mp leads
      cases Dialogue.leads_done_iff.mp last
      have entered : handler.lifecycle.enter .takeover = _ := Open.enter still
      have began : Handler.takeOver handler supplies = handler.takeOver supplies := rfl
      rw [began, Envelope.takeOver, entered] at talked
      cases Dialogue.leads_done_iff.mp talked
      rintro ⟨⟩

theorem answer_round_ne_wait (handler : SharedKey) (supplies : Supplies κ)
    (unsought : roundSeeks? (.inl handler) = none) (seconds : Nat) :
    (handler.round supplies).answer ≠ .ok (.wait seconds) := by
  rw [SharedKey.round]
  split
  · rename_i consuming
    rw [roundSeeks?, if_pos consuming] at unsought
    exact handler.answer_read_ne_wait _ supplies unsought seconds
  · exact handler.answer_write_ne_wait _ supplies seconds

theorem given_carryOn_ne_wait (still : handler.lifecycle.Open .takeover)
    (unsought : handler.roundSeeks? = none) {given : Option Answer}
    (leads : (Handler.carryOn handler supplies).dialogue.Leads (next, given)) (seconds : Nat) :
    given ≠ some (.ok (.wait seconds)) := by
  cases handler with
  | inl handler =>
      obtain ⟨⟨inner, answer⟩, talked, last⟩ := Dialogue.leads_bind_iff.mp leads
      cases Dialogue.leads_done_iff.mp last
      have stays := answer_round_ne_wait handler supplies unsought seconds
      have spoken : (handler.carryOn supplies).dialogue.Leads (inner, given) := talked
      cases SharedKey.rounds_carryOn spoken with
      | broken _ => exact nofun
      | worked answered outgrowth =>
          rw [answered] at stays
          cases outgrowth with
          | onward _ _ _ => exact nofun
          | ended _ => exact fun waits => stays (Option.some.inj waits)
          | broken _ => exact nofun
  | inr handler =>
      have opened : (BuiltIn.lifecycle (.inr handler)).Open .takeover := still
      exact given_takeOver_ne_wait opened leads seconds

/-! ## Desks -/

/-- A handler whose desk, if it has one, is blank once it is cleared. -/
def Neat : BuiltIn → Prop
  | .inl handler => handler.desk.clear = Blob.blank takeoverCapacity
  | .inr _ => True

theorem neat_takeOver (still : handler.lifecycle.Open .takeover)
    (leads : (Handler.takeOver handler supplies).dialogue.Leads (next, none)) : next.Neat := by
  cases handler with
  | inl handler =>
      obtain ⟨⟨inner, answer⟩, talked, last⟩ := Dialogue.leads_bind_iff.mp leads
      cases Dialogue.leads_done_iff.mp last
      have began : Handler.takeOver handler supplies = _ :=
        SharedKey.takeOver_of_enter (Open.enter still) supplies
      rw [began] at talked
      cases Dialogue.leads_done_iff.mp talked
      exact Blob.clear_blank takeoverCapacity
  | inr handler =>
      obtain ⟨⟨inner, answer⟩, _, last⟩ := Dialogue.leads_bind_iff.mp leads
      cases Dialogue.leads_done_iff.mp last
      trivial

theorem neat_carryOn (neat : handler.Neat)
    (leads : (Handler.carryOn handler supplies).dialogue.Leads (next, none)) : next.Neat := by
  cases handler with
  | inl handler =>
      obtain ⟨⟨inner, answer⟩, talked, last⟩ := Dialogue.leads_bind_iff.mp leads
      cases Dialogue.leads_done_iff.mp last
      have cleared : handler.desk.clear = Blob.blank takeoverCapacity := neat
      exact SharedKey.clear_carryOn cleared talked
  | inr handler =>
      obtain ⟨⟨inner, answer⟩, _, last⟩ := Dialogue.leads_bind_iff.mp leads
      cases Dialogue.leads_done_iff.mp last
      trivial

/-! ## Past the hello -/

def PastHello : BuiltIn → Prop
  | .inl handler => handler.PastHello
  | .inr _ => False

theorem PastHello.callSeeks? (past : handler.PastHello) (blob : Blob) :
    handler.callSeeks? blob = none := by
  cases handler with
  | inl handler =>
      rw [BuiltIn.callSeeks?]
      split
      · exact SharedKey.PastHello.seeks? past blob
      · rfl
  | inr handler => exact past.elim

theorem PastHello.roundSeeks? (past : handler.PastHello) : handler.roundSeeks? = none := by
  cases handler with
  | inl handler =>
      rw [BuiltIn.roundSeeks?]
      split
      · exact SharedKey.PastHello.seeks? past handler.desk
      · rfl
  | inr handler => exact past.elim

theorem PastHello.protocol_ne (past : handler.PastHello) (honest : handler.Honest) :
    handler.lifecycle.face.protocol ≠ Envelope.protocol := by
  cases handler with
  | inl handler =>
      obtain ⟨⟨start, log, standing, protocol⟩, _⟩ := honest
      have stated : handler.lifecycle.face.protocol ≠ Envelope.protocol := by
        rw [← protocol]
        cases start.variant <;> decide
      exact stated
  | inr handler => exact past.elim

omit [KeyStore κ] in
theorem past_call {handler : SharedKey}
    {work : SharedKey → Blob → Supplies κ → Turn (Supplies κ) SharedKey} {mode : Mode}
    (still : handler.lifecycle.Open .blob) (past : handler.PastHello)
    (worked : ∀ handler : SharedKey, handler.PastHello →
      (work handler blob supplies).answer = .ok mode →
        (work handler blob supplies).handler.PastHello)
    (answered : (handler.call work blob supplies).answer = .ok mode) :
    (handler.call work blob supplies).handler.PastHello := by
  rw [SharedKey.call_of_open work blob supplies still] at answered ⊢
  exact worked (handler.letIn .blob) past answered

theorem PastHello.produce (past : handler.PastHello) (still : handler.lifecycle.Open .blob)
    {mode : Mode} (answered : (Handler.produce handler blob supplies).answer = .ok mode) :
    (Handler.produce handler blob supplies).handler.PastHello := by
  cases handler with
  | inl handler =>
      exact past_call still past (fun _ past worked => past.write worked) answered
  | inr handler => exact past.elim

theorem PastHello.consume (past : handler.PastHello) (still : handler.lifecycle.Open .blob)
    {mode : Mode} (answered : (Handler.consume handler blob supplies).answer = .ok mode) :
    (Handler.consume handler blob supplies).handler.PastHello := by
  cases handler with
  | inl handler =>
      exact past_call still past (fun _ past worked => past.read worked) answered
  | inr handler => exact past.elim

theorem PastHello.takeOver (past : handler.PastHello) (still : handler.lifecycle.Open .takeover)
    {given : Option Answer}
    (leads : (Handler.takeOver handler supplies).dialogue.Leads (next, given)) :
    next.PastHello := by
  cases handler with
  | inl handler =>
      obtain ⟨⟨inner, answer⟩, talked, last⟩ := Dialogue.leads_bind_iff.mp leads
      cases Dialogue.leads_done_iff.mp last
      have began : Handler.takeOver handler supplies = _ :=
        SharedKey.takeOver_of_enter (Open.enter still) supplies
      rw [began] at talked
      cases Dialogue.leads_done_iff.mp talked
      exact past
  | inr handler => exact past.elim

theorem past_round {handler : SharedKey} (past : handler.PastHello) {mode : Mode}
    (answered : (handler.round supplies).answer = .ok mode) :
    (handler.round supplies).handler.PastHello := by
  revert answered
  rw [SharedKey.round]
  split
  · exact past.read
  · exact past.write

theorem PastHello.carryOn (past : handler.PastHello) {given : Option Answer}
    (leads : (Handler.carryOn handler supplies).dialogue.Leads (next, given))
    (unbroken : ∀ fault, given ≠ some (.error fault)) : next.PastHello := by
  cases handler with
  | inl handler =>
      obtain ⟨⟨inner, answer⟩, talked, last⟩ := Dialogue.leads_bind_iff.mp leads
      cases Dialogue.leads_done_iff.mp last
      have spoken : (handler.carryOn supplies).dialogue.Leads (inner, given) := talked
      cases SharedKey.rounds_carryOn spoken with
      | broken _ => exact absurd rfl (unbroken _)
      | worked answered outgrowth =>
          have kept := past_round past answered
          cases outgrowth with
          | onward _ _ _ => exact kept
          | ended _ => exact kept
          | broken _ => exact absurd rfl (unbroken _)
  | inr handler => exact past.elim

end BuiltIn

end Parley
