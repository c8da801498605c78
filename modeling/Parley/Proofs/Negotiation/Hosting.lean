import Parley.Proofs.BuiltIn.Lookup
import Parley.Proofs.Negotiation.Contract

/-!
Negotiations of servers. They ask for no key but to answer a hello; up to then it does not matter
which keys there are, and they do not pause.
-/

namespace Parley

def Start.Serves : Start → Prop
  | .live _ role => role = .server
  | .declared attributes => ∀ role, attributes.role = .ok role → role = .server

def Advance.stock {κ σ : Type} (advance : Advance (Supplies κ) σ) (keys : κ) :
    Advance (Supplies κ) σ :=
  { advance with surroundings := advance.surroundings.stock keys }

def Phase.seeks? : Phase BuiltIn → Option String
  | .calling ⟨handler, _, .consume, blob⟩ => handler.callSeeks? blob
  | .takingOver handler false => handler.roundSeeks?
  | _ => none

namespace Negotiation

open Lifecycle

/-- The phases of a server's negotiation that does not wait. -/
inductive Hosting : Phase BuiltIn → Prop
  | opening : Hosting .opening
  | claiming {next : Phase BuiltIn} (hosting : Hosting next) : Hosting (.claiming next)
  | calling {loop : BlobLoop BuiltIn} (role : (face loop.handler).role = some .server) :
      Hosting (.calling loop)
  | obeying {loop : BlobLoop BuiltIn} {mode : Mode} (role : (face loop.handler).role = some .server)
      (awake : ∀ seconds, mode ≠ .wait seconds) : Hosting (.obeying loop mode)
  | stopped {handler : BuiltIn} {chain : List String} {mode : Mode}
      (role : (face handler).role = some .server) : Hosting (.stopped handler chain mode)
  | takingOver {handler : BuiltIn} {fresh : Bool} (role : (face handler).role = some .server)
      (neat : fresh = false → handler.Neat) : Hosting (.takingOver handler fresh)
  | tookOver {handler : BuiltIn} {mode : Mode} (role : (face handler).role = some .server)
      (awake : ∀ seconds, mode ≠ .wait seconds) : Hosting (.tookOver handler mode)
  | tookOverFree {handler : BuiltIn} {mode : Mode} (role : (face handler).role = some .server) :
      Hosting (.tookOverFree handler mode)
  | over {result : Except Fault Outcome} : Hosting (.over result)

variable {κ : Type} [KeyStore κ] {now : Negotiation BuiltIn} {supplies : Supplies κ}
  {next : Phase BuiltIn} {handler : BuiltIn}

/-! ## Initialisation -/

theorem begin_stock {start : Start} (serves : start.Serves) (handler : BuiltIn)
    (supplies : Supplies κ) (keys : κ) :
    begin start (supplies.stock keys) handler = (begin start supplies handler).stock keys := by
  cases start with
  | live identity role =>
      obtain rfl : role = .server := serves
      exact handler.init_stock supplies keys identity
  | declared attributes => exact handler.initFrom_stock supplies keys serves

theorem enter_stock (serves : now.start.Serves) (after : BuiltIn → Phase BuiltIn)
    (supplies : Supplies κ) (keys : κ) :
    now.enter after (supplies.stock keys) = (now.enter after supplies).stock keys := by
  rw [enter, enter, prepare_eq, prepare_eq]
  rcases (now.registry.create now.protocol).1 with fault | handler
  · rfl
  · simp only [Except.map, begin_stock serves]
    rfl

theorem follow_stock (role : (face handler).role = some .server) (chain : List String)
    (supplies : Supplies κ) (keys : κ) :
    now.follow handler chain (supplies.stock keys) =
      (now.follow handler chain supplies).stock keys := by
  simp only [follow, role]
  split
  · rfl
  · rcases now.registry.create _ with ⟨_ | next, registry⟩
    · rfl
    · simp only [next.init_stock supplies keys]
      rfl

theorem advance_stock (hosting : Hosting now.phase) (serves : now.start.Serves)
    (unsought : now.phase.seeks? = none) (supplies : Supplies κ) (keys : κ) :
    now.advance (supplies.stock keys) = (now.advance supplies).stock keys := by
  generalize shown : now.phase = phase at hosting unsought
  cases hosting with
  | opening =>
      rw [advance, advance, shown]
      dsimp only
      split <;> exact enter_stock serves _ supplies keys
  | @calling loop role =>
      have turned : turnOf loop (supplies.stock keys) = (turnOf loop supplies).stock keys := by
        obtain ⟨handler, chain, call, blob⟩ := loop
        cases call with
        | produce => exact handler.produce_stock blob.clear supplies keys
        | consume => exact handler.consume_stock blob supplies keys unsought
      rw [advance_calling _ shown, advance_calling _ shown, turned]
      rfl
  | obeying role awake =>
      rw [advance_obeying _ shown, advance_obeying _ shown]
      rfl
  | @stopped handler chain mode role =>
      rw [advance, advance, shown]
      cases mode with
      | delegated => exact follow_stock role chain supplies keys
      | _ => rfl
  | @takingOver handler fresh role neat =>
      have stretched : (if fresh then Handler.takeOver handler (supplies.stock keys)
            else Handler.carryOn handler (supplies.stock keys) : Stretch (Supplies κ) BuiltIn) =
          (if fresh then Handler.takeOver handler supplies
            else Handler.carryOn handler supplies : Stretch (Supplies κ) BuiltIn).stock keys := by
        cases fresh with
        | true => exact handler.takeOver_stock supplies keys
        | false => exact handler.carryOn_stock supplies keys unsought
      rw [advance, advance, shown]
      simp only [takeOver, stretched]
      rfl
  | tookOver role awake =>
      rw [advance_tookOver _ shown awake, advance_tookOver _ shown awake]
      rfl
  | @tookOverFree handler mode role =>
      rw [advance, advance, shown]
      cases mode with
      | notSupported => exact enter_stock serves _ supplies keys
      | _ => rfl
  | claiming hosting =>
      rw [advance, advance, shown]
      rfl
  | «over» =>
      rw [advance, advance, shown]
      rfl

theorem action_ne_pause (hosting : Hosting now.phase) (seconds : Nat) (next : Phase BuiltIn) :
    (now.advance supplies).action ≠ .pause seconds next := by
  have entering (after : BuiltIn → Phase BuiltIn) :
      (now.enter after supplies).action ≠ .pause seconds next := by
    rw [enter]
    split <;> rintro ⟨⟩
  generalize shown : now.phase = phase at hosting
  cases hosting with
  | opening =>
      rw [advance, shown]
      dsimp only
      split <;> exact entering _
  | @calling loop role =>
      rw [advance_calling _ shown]
      dsimp only [closeTurn]
      split
      · rintro ⟨⟩
      · split <;> rintro ⟨⟩
  | @obeying loop mode role awake =>
      rw [advance_obeying _ shown]
      intro pauses
      cases mode with
      | wait seconds => exact awake seconds rfl
      | _ => cases pauses
  | @stopped handler chain mode role =>
      by_cases delegated : mode = .delegated
      · subst delegated
        rw [advance, shown]
        dsimp only [follow]
        split
        · rintro ⟨⟩
        · split
          · rintro ⟨⟩
          · split <;> rintro ⟨⟩
      · rw [advance_stopped _ shown delegated]
        rintro ⟨⟩
  | tookOver role awake =>
      rw [advance_tookOver _ shown awake]
      rintro ⟨⟩
  | @tookOverFree handler mode role =>
      by_cases declined : mode = .notSupported
      · subst declined
        rw [advance, shown]
        exact entering _
      · by_cases delegated : mode = .delegated
        · subst delegated
          rw [advance, shown]
          rintro ⟨⟩
        · rw [advance_tookOverFree _ shown declined delegated]
          rintro ⟨⟩
  | takingOver role neat =>
      rw [advance, shown]
      rintro ⟨⟩
  | claiming hosting =>
      rw [advance, shown]
      rintro ⟨⟩
  | «over» =>
      rw [advance, shown]
      rintro ⟨⟩

/-! ## Steps -/

theorem role_begin {start : Start} (serves : start.Serves)
    (accepted : (begin start supplies handler).accepted = true) :
    (face (begin start supplies handler).handler).role = some .server := by
  cases start with
  | live identity role =>
      obtain rfl : role = .server := serves
      exact BuiltIn.role_init accepted
  | declared attributes => exact BuiltIn.role_initFrom serves accepted

theorem hosting_enter (serves : now.start.Serves) {after : BuiltIn → Phase BuiltIn}
    (hosting : ∀ bound, (face bound).role = some .server → Hosting (after bound))
    (leads : (now.enter after supplies).action.Leads next) : Hosting next := by
  rw [enter, prepare_eq] at leads
  rcases created : (now.registry.create now.protocol).1 with fault | handler
  · rw [created] at leads
    obtain rfl := leads_goOn_iff.mp leads
    exact .over
  · rw [created] at leads
    obtain rfl := leads_goOn_iff.mp leads
    split
    · rename_i accepted
      exact hosting _ (role_begin serves accepted)
    · exact .over

theorem hosting_follow (role : (face handler).role = some .server) {chain : List String}
    (leads : (now.follow handler chain supplies).action.Leads next) : Hosting next := by
  simp only [follow, role] at leads
  split at leads
  · obtain rfl := leads_goOn_iff.mp leads
    exact .over
  · split at leads
    · obtain rfl := leads_goOn_iff.mp leads
      exact .over
    · obtain rfl := leads_goOn_iff.mp leads
      split
      · rename_i accepted
        exact .calling (BuiltIn.role_init accepted)
      · exact .over

theorem role_of_behaves {before after : BuiltIn} {kind : ExchangeKind} {honest : Prop}
    {answer : Answer} (behaves : Behaves kind before.lifecycle after.lifecycle honest answer)
    (role : (face before).role = some .server) : (face after).role = some .server := by
  rw [← BuiltIn.face_lifecycle] at role ⊢
  exact behaves.role.trans role

theorem answer_turnOf_ne_wait {loop : BlobLoop BuiltIn} (holding : Holding loop.chain loop.handler)
    (still : loop.handler.lifecycle.Open .blob)
    (unsought : (Phase.calling loop).seeks? = none) (seconds : Nat) :
    (turnOf loop supplies).answer ≠ .ok (.wait seconds) := by
  obtain ⟨handler, chain, call, blob⟩ := loop
  cases call with
  | produce => exact BuiltIn.answer_produce_ne_wait holding.honest still seconds
  | consume => exact BuiltIn.answer_consume_ne_wait holding.honest still unsought seconds

theorem hosting_calling {loop : BlobLoop BuiltIn} (holding : Holding loop.chain loop.handler)
    (still : loop.handler.lifecycle.Open .blob) (role : (face loop.handler).role = some .server)
    (awake : ∀ seconds, (turnOf loop supplies).answer ≠ .ok (.wait seconds))
    (leads : (closeTurn loop (turnOf loop supplies)).Leads next) : Hosting next := by
  cases closed_of_leads leads with
  | broken _ => exact .over
  | unsent _ => exact .over
  | @obeying mode answered =>
      have stays (seconds : Nat) : mode ≠ .wait seconds := by
        rintro rfl
        exact awake seconds answered
      obtain ⟨handler, chain, call, blob⟩ := loop
      cases call with
      | produce => exact .obeying (role_of_behaves (holding.honest.produce still) role) stays
      | consume => exact .obeying (role_of_behaves (holding.honest.consume still) role) stays

theorem hosting_obeying {loop : BlobLoop BuiltIn} {mode : Mode}
    (role : (face loop.handler).role = some .server) (leads : (obey loop mode).Leads next) :
    Hosting next := by
  cases obeyed_of_leads leads with
  | unread _ => exact .over
  | reads _ => exact .calling role
  | writes => exact .calling role
  | again => exact .calling role
  | waits _ => exact .calling role
  | stops _ => exact .stopped role

theorem hosting_afterStretch {after : BuiltIn} {given : Option Answer}
    (unfolds : Unfolds handler.lifecycle after.lifecycle after.Honest given)
    (role : (face handler).role = some .server) (neat : given = none → after.Neat)
    (awake : ∀ seconds, given ≠ some (.ok (.wait seconds))) :
    Hosting (afterStretch after given) := by
  cases unfolds with
  | onward _ same _ _ =>
      refine .takingOver ?_ fun _ => neat rfl
      rw [← BuiltIn.face_lifecycle] at role ⊢
      exact same.trans role
  | @answered answer behaves _ =>
      rcases answer with fault | mode
      · exact .over
      · exact .tookOver (role_of_behaves behaves role) fun seconds waits =>
          awake seconds (by rw [waits])

theorem hosting_takingOver {protocol : String} {fresh : Bool} (holding : Holding [protocol] handler)
    (still : handler.lifecycle.Open .takeover)
    (engaged : fresh = false → handler.lifecycle.Engaged .takeover)
    (role : (face handler).role = some .server) (neat : fresh = false → handler.Neat)
    (awake : fresh = false → ∀ after given,
      (Handler.carryOn handler supplies).dialogue.Leads (after, given) →
        ∀ seconds, given ≠ some (.ok (.wait seconds)))
    (leads : (takeOver handler fresh supplies).2.Leads next) : Hosting next := by
  obtain ⟨after, given, talked, rfl⟩ := stretch_of_leads leads
  cases fresh with
  | true =>
      refine hosting_afterStretch (holding.honest.takeOver still talked) role ?_
        (BuiltIn.given_takeOver_ne_wait still talked)
      rintro rfl
      exact BuiltIn.neat_takeOver still talked
  | false =>
      refine hosting_afterStretch (holding.honest.carryOn (engaged rfl) talked) role ?_
        (awake rfl _ _ talked)
      rintro rfl
      exact BuiltIn.neat_carryOn (neat rfl) talked

theorem Hosting.steps (sound : Sound now.protocol now.phase) (hosting : Hosting now.phase)
    (serves : now.start.Serves) (unsought : now.phase.seeks? = none)
    (leads : (now.advance supplies).action.Leads next) : Hosting next := by
  generalize shown : now.phase = phase at sound hosting unsought
  cases hosting with
  | opening =>
      rw [advance, shown] at leads
      dsimp only at leads
      split at leads
      · exact hosting_enter serves (fun bound role => .calling role) leads
      · refine hosting_enter serves (fun bound role => ?_) leads
        exact .claiming (.takingOver role (by rintro ⟨⟩))
  | claiming hosting =>
      rw [advance, shown] at leads
      cases leads with
      | lease _ granted =>
          dsimp only
          split
          · exact hosting
          · exact .over
  | @calling loop role =>
      rw [advance_calling supplies shown] at leads
      cases sound with
      | calling holding still =>
          exact hosting_calling holding still role (answer_turnOf_ne_wait holding still unsought)
            leads
  | obeying role awake =>
      rw [advance_obeying supplies shown] at leads
      exact hosting_obeying role leads
  | @stopped handler chain mode role =>
      by_cases delegated : mode = .delegated
      · subst delegated
        rw [advance, shown] at leads
        exact hosting_follow role leads
      · rw [advance_stopped _ shown delegated] at leads
        obtain rfl := leads_goOn_iff.mp leads
        exact .over
  | takingOver role neat =>
      rw [advance, shown] at leads
      cases sound with
      | takingOver holding still engaged =>
          refine hosting_takingOver holding still engaged role neat ?_ leads
          rintro rfl after given talked
          exact BuiltIn.given_carryOn_ne_wait still unsought talked
  | tookOver role awake =>
      rw [advance_tookOver _ shown awake] at leads
      cases leads
      exact .tookOverFree role
  | @tookOverFree handler mode role =>
      by_cases declined : mode = .notSupported
      · subst declined
        rw [advance, shown] at leads
        exact hosting_enter serves (fun bound role => .claiming (.calling role)) leads
      · by_cases delegated : mode = .delegated
        · subst delegated
          rw [advance, shown] at leads
          obtain rfl := leads_goOn_iff.mp leads
          exact .claiming (.stopped role)
        · rw [advance_tookOverFree _ shown declined delegated] at leads
          obtain rfl := leads_goOn_iff.mp leads
          exact .over
  | «over» =>
      rw [advance, shown] at leads
      cases leads

end Negotiation

end Parley
