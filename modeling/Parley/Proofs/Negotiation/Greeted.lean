import Parley.Proofs.Negotiation.Later

/-!
Negotiations of servers that have answered a hello. They do not ask for a key again.
-/

namespace Parley.Negotiation

open Lifecycle

inductive Greeted : Phase BuiltIn → Prop
  | calling {loop : BlobLoop BuiltIn} (past : loop.handler.PastHello) : Greeted (.calling loop)
  | obeying {loop : BlobLoop BuiltIn} {mode : Mode} (past : loop.handler.PastHello) :
      Greeted (.obeying loop mode)
  | stopped {handler : BuiltIn} {chain : List String} {mode : Mode} (past : handler.PastHello) :
      Greeted (.stopped handler chain mode)
  | takingOver {handler : BuiltIn} {fresh : Bool} (past : handler.PastHello) :
      Greeted (.takingOver handler fresh)
  | tookOver {handler : BuiltIn} {mode : Mode} (past : handler.PastHello) :
      Greeted (.tookOver handler mode)
  | tookOverFree {handler : BuiltIn} {mode : Mode} (past : handler.PastHello) :
      Greeted (.tookOverFree handler mode)
  | over {result : Except Fault Outcome} : Greeted (.over result)

theorem Greeted.seeks? {phase : Phase BuiltIn} (greeted : Greeted phase) :
    phase.seeks? = none := by
  cases greeted with
  | @calling loop past =>
      obtain ⟨handler, chain, call, blob⟩ := loop
      cases call with
      | produce => rfl
      | consume => exact past.callSeeks? blob
  | @takingOver handler fresh past =>
      cases fresh with
      | true => rfl
      | false => exact past.roundSeeks?
  | _ => rfl

variable {κ : Type} [KeyStore κ] {now : Negotiation BuiltIn} {supplies : Supplies κ}
  {next : Phase BuiltIn}

theorem greeted_calling {loop : BlobLoop BuiltIn} (past : loop.handler.PastHello)
    (still : loop.handler.lifecycle.Open .blob)
    (leads : (closeTurn loop (turnOf loop supplies)).Leads next) : Greeted next := by
  cases closed_of_leads leads with
  | broken _ => exact .over
  | unsent _ => exact .over
  | obeying answered =>
      obtain ⟨handler, chain, call, blob⟩ := loop
      cases call with
      | produce => exact .obeying (past.produce still answered)
      | consume => exact .obeying (past.consume still answered)

theorem greeted_obeying {loop : BlobLoop BuiltIn} {mode : Mode} (past : loop.handler.PastHello)
    (leads : (obey loop mode).Leads next) : Greeted next := by
  cases obeyed_of_leads leads with
  | unread _ => exact .over
  | reads _ => exact .calling past
  | writes => exact .calling past
  | again => exact .calling past
  | waits _ => exact .calling past
  | stops _ => exact .stopped past

theorem greeted_takingOver {handler : BuiltIn} {fresh : Bool} (past : handler.PastHello)
    (still : handler.lifecycle.Open .takeover)
    (leads : (takeOver handler fresh supplies).2.Leads next) : Greeted next := by
  obtain ⟨after, given, talked, rfl⟩ := stretch_of_leads leads
  have kept (unbroken : ∀ fault, given ≠ some (.error fault)) : after.PastHello := by
    cases fresh with
    | true => exact past.takeOver still talked
    | false => exact past.carryOn talked unbroken
  rcases given with _ | _ | mode
  · exact .takingOver (kept nofun)
  · exact .over
  · exact .tookOver (kept nofun)

theorem ne_delegated_of_past {handler : BuiltIn} {kind : ExchangeKind} {mode : Mode}
    (past : handler.PastHello) (honest : handler.Honest)
    (fares : Fares kind handler.lifecycle (.ok mode)) : mode ≠ .delegated := by
  rintro rfl
  cases fares with
  | going goes _ _ _ => cases goes
  | delegated fromEnvelope _ _ => exact past.protocol_ne honest fromEnvelope

theorem ne_notSupported_of_past {handler : BuiltIn} {kind : ExchangeKind} {mode : Mode}
    (past : handler.PastHello) (honest : handler.Honest)
    (fares : Fares kind handler.lifecycle (.ok mode)) : mode ≠ .notSupported := by
  rintro rfl
  cases fares with
  | going _ supported _ _ => exact supported rfl
  | declined fromEnvelope => exact past.protocol_ne honest fromEnvelope

theorem Greeted.steps (sound : Sound now.protocol now.phase) (greeted : Greeted now.phase)
    (leads : (now.advance supplies).action.Leads next) : Greeted next := by
  generalize shown : now.phase = phase at sound greeted
  cases greeted with
  | calling past =>
      rw [advance_calling supplies shown] at leads
      cases sound with
      | calling _ still => exact greeted_calling past still leads
  | obeying past =>
      rw [advance_obeying supplies shown] at leads
      exact greeted_obeying past leads
  | stopped past =>
      -- Another handler would have to be delegated to, and only the envelope does so.
      cases sound with
      | stopped holding fares _ =>
          rw [advance_stopped _ shown (ne_delegated_of_past past holding.honest fares)] at leads
          obtain rfl := leads_goOn_iff.mp leads
          exact .over
  | takingOver past =>
      rw [advance, shown] at leads
      cases sound with
      | takingOver _ still _ => exact greeted_takingOver past still leads
  | @tookOver handler mode past =>
      rw [advance, shown] at leads
      cases mode with
      | wait seconds =>
          cases leads
          exact .takingOver past
      | _ =>
          cases leads
          exact .tookOverFree past
  | tookOverFree past =>
      cases sound with
      | tookOverFree holding fares _ =>
          have supported := ne_notSupported_of_past past holding.honest fares
          have other := ne_delegated_of_past past holding.honest fares
          rw [advance_tookOverFree _ shown supported other] at leads
          obtain rfl := leads_goOn_iff.mp leads
          exact .over
  | «over» =>
      rw [advance, shown] at leads
      cases leads

variable {alarms : Alarms} {moment : Moment (Supplies κ) BuiltIn}

theorem Hosts.never (hosts : Hosts alarms moment) (greeted : Greeted moment.negotiation.phase)
    (bound : Nat) : moment.asks? alarms bound = none := by
  induction bound generalizing moment with
  | zero => rfl
  | succ bound ih =>
      have unsought := greeted.seeks?
      rw [Moment.asks?, unsought]
      rcases stepped : moment.step alarms with next | ended
      · refine ih (hosts.follows unsought stepped).1 ?_
        exact greeted.steps hosts.sound (Moment.leads_of_step stepped)
      · rfl

end Parley.Negotiation
