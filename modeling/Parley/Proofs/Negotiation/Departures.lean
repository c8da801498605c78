import Parley.Proofs.Negotiation.Messages
import Parley.Proofs.Negotiation.Routes
import Parley.Proofs.Registry.Standard

/-!
Departures. A side that begins with a built-in handler comes to drive it through blobs or to let it
take over, as the handler permits, and a side whose envelope has delegated comes to drive the
successor. All of that is a matter of the side's own.
-/

namespace Parley

open Conversation

namespace Negotiation

variable {ω σ : Type} [HasFace σ] [Handler ω σ]

theorem enter_of_begin {negotiation : Negotiation σ} {surroundings later : ω} {handler bound : σ}
    (made : (negotiation.registry.create negotiation.protocol).1 = .ok handler)
    (began : begin negotiation.start surroundings handler = ⟨true, bound, later⟩)
    (next : σ → Phase σ) :
    negotiation.enter next surroundings =
      ⟨(negotiation.registry.create negotiation.protocol).2, later, goOn (next bound)⟩ := by
  rw [enter, prepare_eq, made]
  simp only [Except.map, began]
  rfl

theorem begin_inl {τ : Type} [HasFace τ] [Handler ω τ] (start : Start) (surroundings : ω)
    (handler : σ) : begin start surroundings (.inl handler : σ ⊕ τ) =
      Handler.mapInitialised .inl (begin start surroundings handler) := by
  cases start <;> rfl

theorem begin_inr {τ : Type} [HasFace τ] [Handler ω τ] (start : Start) (surroundings : ω)
    (handler : τ) : begin start surroundings (.inr handler : σ ⊕ τ) =
      Handler.mapInitialised .inr (begin start surroundings handler) := by
  cases start <;> rfl

theorem advance_opening_blobs {negotiation : Negotiation σ} (route : negotiation.route = .blobs)
    (surroundings : ω) :
    { negotiation with phase := .opening }.advance surroundings =
      { negotiation with phase := .opening }.enter
        (fun handler => loopOf negotiation.settings handler [negotiation.protocol])
        surroundings := by
  simp only [advance, route]

theorem advance_opening_direct {negotiation : Negotiation σ} (route : negotiation.route = .direct)
    (surroundings : ω) :
    { negotiation with phase := .opening }.advance surroundings =
      { negotiation with phase := .opening }.enter
        (fun handler => .claiming (.takingOver handler true)) surroundings := by
  simp only [advance, route]

def frameCapacity (negotiation : Negotiation σ) : Nat :=
  match negotiation.route with
  | .blobs => negotiation.settings.blobCapacity
  | .direct => takeoverCapacity

omit [HasFace σ] [Handler ω σ] in
theorem frameCapacity_pos {negotiation : Negotiation σ}
    (room : 0 < negotiation.settings.blobCapacity) : 0 < negotiation.frameCapacity := by
  rw [frameCapacity]
  split
  · exact room
  · decide

end Negotiation

structure Drive.Enveloped (drive : Drive BuiltIn) : Prop where
  route : drive.route = .blobs
  chain : drive.chain = [Envelope.protocol]
  capacity : drive.negotiation.settings.blobCapacity = drive.capacity
  stocked : drive.negotiation.registry.Stocked
  limit : 1 ≤ drive.negotiation.settings.maxDelegations

namespace Side

open Negotiation (begin begin_inl begin_inr loopOf frameCapacity enter_of_begin)

variable {κ : Type} [KeyStore κ] {side : Side κ BuiltIn} {negotiation : Negotiation BuiltIn}
  {keys kept : κ} {next : Phase BuiltIn} {time : Nat} {goal : Side κ BuiltIn → Prop}
  {handler bound : BuiltIn} {variant : Variant} {leased : Bool}

theorem At.leads_claiming (stands : At negotiation keys false (.ready (.claiming next)) side)
    (onward : ∀ side, At negotiation keys true (.ready next) side → Leads (Acts time) goal side) :
    Leads (Acts time) goal side :=
  stands.leads_lease (fun _ => rfl) onward

theorem At.leads_enter {phase : Phase BuiltIn} {after : BuiltIn → Phase BuiltIn}
    (stands : At negotiation keys leased (.ready phase) side)
    (enters : ∀ supplies : Supplies κ, { negotiation with phase }.advance supplies =
      { negotiation with phase }.enter after supplies)
    (made : (negotiation.registry.create negotiation.protocol).1 = .ok handler)
    (began : ∀ nonces, begin negotiation.start (⟨nonces, keys⟩ : Supplies κ) handler =
      ⟨true, bound, ⟨nonces, kept⟩⟩)
    (onward : ∀ side,
      At { negotiation with registry := (negotiation.registry.create negotiation.protocol).2 } kept
        leased (.ready (after bound)) side → Leads (Acts time) goal side) :
    Leads (Acts time) goal side := by
  refine stands.leads_goOn _ (fun nonces => ?_) onward
  rw [enters]
  exact enter_of_begin made (began nonces) after

theorem At.leads_takingOver {bound : SharedKey} (ready : bound.Ready)
    (stands : At negotiation keys true (.ready (.takingOver (.inl bound) true)) side)
    (onward : ∀ opened side, Negotiation.Level .inl opened
        ⟨(.inl bound : BuiltIn), [negotiation.protocol], .produce, Blob.blank takeoverCapacity⟩ →
      At negotiation keys true (.ready (.takingOver (.inl opened) false)) side →
      Leads (Acts time) goal side) : Leads (Acts time) goal side := by
  let opened : SharedKey :=
    { bound with
      lifecycle := { bound.lifecycle with exchange := some .takeover, stage := .exchanging }
      desk := Blob.blank takeoverCapacity }
  have took (supplies : Supplies κ) : Handler.takeOver (.inl bound : BuiltIn) supplies =
      Handler.mapStretch Sum.inl ⟨opened, supplies, .done (opened, none)⟩ :=
    congrArg (Handler.mapStretch Sum.inl)
      (SharedKey.takeOver_of_enter (ready.lifecycle.enter .takeover) supplies)
  refine stands.leads_goOn (.takingOver (.inl opened) false) (fun nonces => ?_)
    fun side stands => onward opened side ?_ stands
  · simp only [Negotiation.advance, Negotiation.takeOver, if_true, took]
    rfl
  · refine ⟨⟨bound, rfl, rfl, rfl, ready.lifecycle.enter .blob, rfl⟩, Blob.capacity_blank _,
      Blob.capacity_blank _, fun consuming => ?_, fun _ => rfl⟩
    exact absurd (ready.consuming.symm.trans consuming) (by decide)

theorem At.leads_sharedKey {bound : SharedKey}
    (stands : At negotiation keys false (.ready .opening) side)
    (stocked : negotiation.registry.Stocked) (protocol : negotiation.protocol = variant.protocol)
    (began : ∀ nonces,
      begin negotiation.start (⟨nonces, keys⟩ : Supplies κ) (SharedKey.fresh variant) =
        ⟨true, bound, ⟨nonces, kept⟩⟩)
    (ready : bound.Ready)
    (onward : ∀ (drive : Drive BuiltIn) (side : Side κ BuiltIn),
      drive.capacity = negotiation.frameCapacity → drive.Calling (.inl bound) kept side →
      Leads (Acts time) goal side) : Leads (Acts time) goal side := by
  have made := stocked.create_sharedKey variant
  rw [← protocol] at made
  have began (nonces : NonceSupply) : begin negotiation.start (⟨nonces, keys⟩ : Supplies κ)
      (.inl (SharedKey.fresh variant) : BuiltIn) = ⟨true, .inl bound, ⟨nonces, kept⟩⟩ := by
    rw [begin_inl, began]
    rfl
  let drive (leased : Bool) : Drive BuiltIn :=
    { negotiation :=
        { negotiation with registry := (negotiation.registry.create negotiation.protocol).2 }
      route := negotiation.route
      leased
      chain := [negotiation.protocol]
      capacity := negotiation.frameCapacity }
  cases route : negotiation.route with
  | blobs =>
      have capacity : negotiation.frameCapacity = negotiation.settings.blobCapacity := by
        rw [frameCapacity, route]
      refine stands.leads_enter (Negotiation.advance_opening_blobs route) made began
        fun side stands => onward (drive false) side rfl
          ⟨Blob.blank negotiation.settings.blobCapacity, ?_, .blobs route stands⟩
      exact (Blob.capacity_blank _).trans capacity.symm
  | direct =>
      have capacity : negotiation.frameCapacity = takeoverCapacity := by rw [frameCapacity, route]
      refine stands.leads_enter (Negotiation.advance_opening_direct route) made began
        fun side stands => At.leads_claiming stands fun side stands =>
        stands.leads_takingOver ready fun opened side level stands => onward (drive true) side rfl
          ⟨Blob.blank takeoverCapacity, ?_, .direct route level stands⟩
      exact (Blob.capacity_blank _).trans capacity.symm

theorem At.leads_declining {bound : Envelope} (ready : bound.lifecycle.Ready)
    (stands : At negotiation keys true (.ready (.takingOver (.inr bound) true)) side)
    (onward : ∀ declined side,
      At negotiation keys false (.ready (.tookOverFree (.inr declined) .notSupported)) side →
      Leads (Acts time) goal side) : Leads (Acts time) goal side := by
  refine stands.leads fun nonces => ?_
  obtain ⟨declined, took⟩ := Envelope.takeOver_of_ready ready (⟨nonces, keys⟩ : Supplies κ)
  have took : Handler.takeOver (.inr bound : BuiltIn) (⟨nonces, keys⟩ : Supplies κ) =
      Handler.mapStretch Sum.inr
        ⟨declined, ⟨nonces, keys⟩, .done (declined, some (.ok .notSupported))⟩ :=
    congrArg (Handler.mapStretch Sum.inr) took
  refine ⟨negotiation.registry, keys,
    Negotiation.goOn (.tookOver (.inr declined) .notSupported), ?_, ?_⟩
  · simp only [Negotiation.advance, Negotiation.takeOver, if_true, took]
    rfl
  · exact At.leads_done ⟨rfl, rfl, stands.held, stands.leased, rfl⟩ fun side stands =>
      stands.leads_release (fun _ => rfl) (onward declined)

theorem At.leads_envelope {bound : Envelope}
    (stands : At negotiation keys false (.ready .opening) side)
    (stocked : negotiation.registry.Stocked) (protocol : negotiation.protocol = Envelope.protocol)
    (began : ∀ nonces,
      begin negotiation.start (⟨nonces, keys⟩ : Supplies κ) (Envelope.fresh Registry.offered) =
        ⟨true, bound, ⟨nonces, keys⟩⟩)
    (ready : bound.lifecycle.Ready) (limit : 1 ≤ negotiation.settings.maxDelegations)
    (onward : ∀ (drive : Drive BuiltIn) (side : Side κ BuiltIn), drive.Enveloped →
      drive.capacity = negotiation.settings.blobCapacity → drive.Calling (.inr bound) keys side →
      Leads (Acts time) goal side) : Leads (Acts time) goal side := by
  have made := stocked.create_envelope
  have stockedThen := stocked.create negotiation.protocol
  have madeAgain := stockedThen.create_envelope
  rw [← protocol] at made madeAgain
  have began (nonces : NonceSupply) : begin negotiation.start (⟨nonces, keys⟩ : Supplies κ)
      (.inr (Envelope.fresh Registry.offered) : BuiltIn) =
        ⟨true, .inr bound, ⟨nonces, keys⟩⟩ := by
    rw [begin_inr, began]
    rfl
  let drive (registry : Registry BuiltIn) (leased : Bool) : Drive BuiltIn :=
    { negotiation := { negotiation with registry }
      route := .blobs
      leased
      chain := [negotiation.protocol]
      capacity := negotiation.settings.blobCapacity }
  have enveloped {registry : Registry BuiltIn} (stocked : registry.Stocked) (leased : Bool) :
      (drive registry leased).Enveloped :=
    ⟨rfl, congrArg (fun name => [name]) protocol, rfl, stocked, limit⟩
  cases route : negotiation.route with
  | blobs =>
      exact stands.leads_enter (Negotiation.advance_opening_blobs route) made began
        fun side stands => onward _ side (enveloped stockedThen false) rfl
          ⟨Blob.blank negotiation.settings.blobCapacity, Blob.capacity_blank _, .blobs rfl stands⟩
  | direct =>
      have entersAgain (registry : Registry BuiltIn) (declined : Envelope)
          (supplies : Supplies κ) :
          { negotiation with
            registry, phase := .tookOverFree (.inr declined) .notSupported }.advance supplies =
            { negotiation with
              registry, phase := .tookOverFree (.inr declined) .notSupported }.enter
              (fun handler => .claiming
                (loopOf negotiation.settings handler [negotiation.protocol])) supplies := rfl
      refine stands.leads_enter (Negotiation.advance_opening_direct route) made began
        fun side stands => At.leads_claiming stands fun side stands =>
        stands.leads_declining ready fun declined side stands =>
        stands.leads_enter (entersAgain _ declined) madeAgain began fun side stands =>
        At.leads_claiming stands fun side stands => ?_
      exact onward _ side (enveloped (stockedThen.create _) true) rfl
        ⟨Blob.blank negotiation.settings.blobCapacity, Blob.capacity_blank _, .blobs rfl stands⟩

end Side

/-! ## Delegation -/

structure Envelope.Delegates (variant : Variant) (identity : Option Identity) (role : Role)
    (handler : Envelope) : Prop where
  protocol : handler.lifecycle.face.protocol = Envelope.protocol
  info : handler.lifecycle.face.info = some variant.protocol
  identity : handler.lifecycle.face.identity = identity
  role : handler.lifecycle.face.role = some role

namespace Negotiation

variable {negotiation : Negotiation BuiltIn} {handler : Envelope} {variant : Variant}
  {identity : Option Identity} {role : Role}

theorem successor_of_delegates (delegates : handler.Delegates variant identity role)
    (stocked : negotiation.registry.Stocked) (limit : 1 ≤ negotiation.settings.maxDelegations) :
    negotiation.successor (.inr handler) [Envelope.protocol] = .ok variant.protocol := by
  have shown : face (.inr handler : BuiltIn) = handler.lifecycle.face := rfl
  have other : variant.protocol ≠ Envelope.protocol := by cases variant <;> decide
  have unlisted : [Envelope.protocol].contains variant.protocol = false := by
    cases variant <;> rfl
  rw [successor, shown, delegates.info, delegates.protocol]
  simp only [Option.getD_some, unlisted, stocked.contains, List.length_singleton]
  rw [if_neg other, if_neg (by simp), if_neg (by omega), if_neg (by simp)]

variable {κ : Type} [KeyStore κ] {bound : SharedKey} {supplies later : Supplies κ}

theorem follow_of_delegates (delegates : handler.Delegates variant identity role)
    (stocked : negotiation.registry.Stocked) (limit : 1 ≤ negotiation.settings.maxDelegations)
    (began : (SharedKey.fresh variant).init
      (identity.map fun identity => identity.rescoped variant.protocol) role supplies =
        ⟨true, bound, later⟩) :
    negotiation.follow (.inr handler) [Envelope.protocol] supplies =
      ⟨(negotiation.registry.create variant.protocol).2, later,
        goOn (loopOf negotiation.settings (.inl bound)
          ([Envelope.protocol] ++ [variant.protocol]))⟩ := by
  have shown : face (.inr handler : BuiltIn) = handler.lifecycle.face := rfl
  have began : Handler.init (.inl (SharedKey.fresh variant) : BuiltIn)
      (identity.map fun identity => identity.rescoped variant.protocol) role supplies =
        Handler.mapInitialised Sum.inl ⟨true, bound, later⟩ :=
    congrArg (Handler.mapInitialised Sum.inl) began
  have created : negotiation.registry.create variant.protocol =
      (.ok (.inl (SharedKey.fresh variant)), (negotiation.registry.create variant.protocol).2) :=
    Prod.ext (stocked.create_sharedKey variant) rfl
  rw [follow, successor_of_delegates delegates stocked limit]
  simp only [shown, delegates.identity, delegates.role]
  rw [created]
  simp only [began, Handler.mapInitialised, if_true]

end Negotiation

namespace Drive

variable {κ : Type} [KeyStore κ] {drive : Drive BuiltIn} {handler : Envelope} {variant : Variant}
  {identity : Option Identity} {role : Role} {bound : SharedKey} {call : Call} {keys kept : κ}
  {time : Nat} {side : Side κ BuiltIn} {goal : Side κ BuiltIn → Prop}

theorem Obeying.leads_follow (delegates : handler.Delegates variant identity role)
    (enveloped : drive.Enveloped)
    (began : ∀ nonces, (SharedKey.fresh variant).init
      (identity.map fun identity => identity.rescoped variant.protocol) role
        (⟨nonces, keys⟩ : Supplies κ) = ⟨true, bound, ⟨nonces, kept⟩⟩)
    (obeying : drive.Obeying call (.inr handler) .delegated keys side)
    (onward : ∀ (next : Drive BuiltIn) (side : Side κ BuiltIn), next.capacity = drive.capacity →
      next.Calling (.inl bound) kept side → Leads (Side.Acts time) goal side) :
    Leads (Side.Acts time) goal side := by
  obtain ⟨blob, _, obeys⟩ := obeying
  obtain ⟨route, chain, capacity, stocked, limit⟩ := enveloped
  rw [chain] at obeys
  let next : Drive BuiltIn :=
    { drive with
      negotiation :=
        { drive.negotiation with
          registry := (drive.negotiation.registry.create variant.protocol).2 }
      chain := [Envelope.protocol] ++ [variant.protocol] }
  refine obeys.leads_stopped route fun side stands => stands.leads_goOn _ (fun nonces => ?_)
    fun side stands => onward next side rfl ⟨Blob.blank drive.negotiation.settings.blobCapacity,
      (Blob.capacity_blank _).trans capacity, .blobs route stands⟩
  exact Negotiation.follow_of_delegates delegates stocked limit (began nonces)

end Drive

end Parley
