import Parley.Proofs.Handler.Ready
import Parley.Proofs.Negotiation.Takeover
import Parley.Rehearsed

/-!
The two routes of a negotiation. With the built-in handlers under their names, a negotiation that
lets its first handler take over the channel looks the same as one that drives it through blobs.
-/

namespace Parley.Negotiation

/-! ## The first handler -/

section Preparing

variable {ω σ : Type} [HasFace σ] [Handler ω σ]

def begin (start : Start) (surroundings : ω) (handler : σ) : Initialised ω σ :=
  match start with
  | .live identity role => Handler.init handler identity role surroundings
  | .declared attributes => Handler.initFrom handler attributes surroundings

theorem prepare_eq (negotiation : Negotiation σ) (surroundings : ω) :
    negotiation.prepare surroundings =
      ((negotiation.registry.create negotiation.protocol).1.map
          (begin negotiation.start surroundings),
        (negotiation.registry.create negotiation.protocol).2) := by
  rw [prepare]
  rcases negotiation.registry.create negotiation.protocol with ⟨_ | handler, registry⟩
  · rfl
  · cases negotiation.start <;> rfl

variable {moment : Moment ω σ} {next : σ → Phase σ}

theorem step_of_fault (alarms : Alarms)
    (advance : moment.negotiation.advance moment.surroundings =
      moment.negotiation.enter next moment.surroundings) {fault : Fault}
    (failed : (moment.negotiation.registry.create moment.negotiation.protocol).1 = .error fault) :
    moment.step alarms =
      .inl { moment with
        negotiation :=
          { moment.negotiation with
            registry := (moment.negotiation.registry.create moment.negotiation.protocol).2
            phase := .over (.error fault) } } := by
  rw [enter, prepare_eq, failed] at advance
  exact Moment.moves advance rfl

theorem step_of_refusal (alarms : Alarms)
    (advance : moment.negotiation.advance moment.surroundings =
      moment.negotiation.enter next moment.surroundings) {handler refusing : σ} {later : ω}
    (made : (moment.negotiation.registry.create moment.negotiation.protocol).1 = .ok handler)
    (refused : begin moment.negotiation.start moment.surroundings handler =
      ⟨false, refusing, later⟩) :
    moment.step alarms =
      .inl { moment with
        negotiation :=
          { moment.negotiation with
            registry := (moment.negotiation.registry.create moment.negotiation.protocol).2
            phase := conclude refusing .noIdentity }
        surroundings := later } := by
  rw [enter, prepare_eq, made] at advance
  simp only [Except.map, refused] at advance
  exact Moment.moves advance rfl

theorem step_of_acceptance (alarms : Alarms)
    (advance : moment.negotiation.advance moment.surroundings =
      moment.negotiation.enter next moment.surroundings) {handler bound : σ} {later : ω}
    (made : (moment.negotiation.registry.create moment.negotiation.protocol).1 = .ok handler)
    (accepted : begin moment.negotiation.start moment.surroundings handler =
      ⟨true, bound, later⟩) :
    moment.step alarms =
      .inl { moment with
        negotiation :=
          { moment.negotiation with
            registry := (moment.negotiation.registry.create moment.negotiation.protocol).2
            phase := next bound }
        surroundings := later } := by
  rw [enter, prepare_eq, made] at advance
  simp only [Except.map, accepted] at advance
  exact Moment.moves advance rfl

end Preparing

/-! ## Setting out -/

section Departing

variable {κ σ : Type} [HasFace σ] [Handler (Supplies κ) σ]

def departing (negotiation : Negotiation σ) (surroundings : Supplies κ) (scene : Scene)
    (route : Route) : Moment (Supplies κ) σ :=
  ⟨{ negotiation with route }, surroundings, scene⟩

variable {alarms : Alarms} {negotiation : Negotiation σ} {surroundings later : Supplies κ}
  {scene : Scene}

theorem advance_direct (surroundings : Supplies κ) (scene : Scene)
    (phase : negotiation.phase = .opening) :
    (departing negotiation surroundings scene .direct).negotiation.advance surroundings =
      (departing negotiation surroundings scene .direct).negotiation.enter
        (fun handler => .claiming (.takingOver handler true)) surroundings := by
  rw [departing, advance, phase]

theorem advance_blobs (surroundings : Supplies κ) (scene : Scene)
    (phase : negotiation.phase = .opening) :
    (departing negotiation surroundings scene .blobs).negotiation.advance surroundings =
      (departing negotiation surroundings scene .blobs).negotiation.enter
        (fun handler => loopOf negotiation.settings handler [negotiation.protocol])
        surroundings := by
  rw [departing, advance, phase]

theorem depart_fault (phase : negotiation.phase = .opening) {fault : Fault}
    (failed : (negotiation.registry.create negotiation.protocol).1 = .error fault) :
    GoOnTo alarms Abreast (departing negotiation surroundings scene .direct)
      (departing negotiation surroundings scene .blobs) := by
  refine ⟨0, 0, _, _, .step (step_of_fault alarms (advance_direct _ _ phase) failed) .here,
    .step (step_of_fault alarms (advance_blobs _ _ phase) failed) .here, ?_⟩
  exact ⟨rfl, rfl, .refl _, .over _, rfl, ⟨rfl, rfl, rfl⟩⟩

theorem depart_refusal (phase : negotiation.phase = .opening) {handler refusing : σ}
    (made : (negotiation.registry.create negotiation.protocol).1 = .ok handler)
    (refused : begin negotiation.start surroundings handler = ⟨false, refusing, later⟩) :
    GoOnTo alarms Abreast (departing negotiation surroundings scene .direct)
      (departing negotiation surroundings scene .blobs) := by
  refine ⟨0, 0, _, _, .step (step_of_refusal alarms (advance_direct _ _ phase) made refused) .here,
    .step (step_of_refusal alarms (advance_blobs _ _ phase) made refused) .here, ?_⟩
  exact ⟨rfl, rfl, .refl _, samePhase_conclude rfl _, rfl, ⟨rfl, rfl, rfl⟩⟩

theorem step_of_declining {moment : Moment (Supplies κ) σ} {bound declined : σ}
    (phase : moment.negotiation.phase = .takingOver bound true)
    (declines : ∃ current, Handler.takeOver bound moment.surroundings =
      ⟨current, moment.surroundings, .done (declined, some (.ok .notSupported))⟩) :
    moment.step alarms =
      .inl { moment with
        negotiation := { moment.negotiation with phase := .tookOver declined .notSupported } } := by
  obtain ⟨current, takes⟩ := declines
  have advance : moment.negotiation.advance moment.surroundings =
      ⟨moment.negotiation.registry, moment.surroundings,
        goOn (.tookOver declined .notSupported)⟩ := by
    rw [Negotiation.advance, phase]
    dsimp only
    rw [takeOver, if_pos rfl, takes]
    rfl
  exact Moment.moves advance rfl

theorem depart_declining (phase : negotiation.phase = .opening) {handler bound declined : σ}
    (free : scene.shared.holder = none)
    (constant : ∀ factory, negotiation.registry.factories.get? negotiation.protocol = some factory →
      ∀ number, factory.make number = handler)
    (made : (negotiation.registry.create negotiation.protocol).1 = .ok handler)
    (accepted : begin negotiation.start surroundings handler = ⟨true, bound, surroundings⟩)
    (declines : ∃ current, Handler.takeOver bound surroundings =
      ⟨current, surroundings, .done (declined, some (.ok .notSupported))⟩) :
    GoOnTo alarms Abreast (departing negotiation surroundings scene .direct)
      (departing negotiation surroundings scene .blobs) := by
  have alike : Registry.Alike (negotiation.registry.create negotiation.protocol).2
      negotiation.registry := (Registry.Alike.refl _).create_left constant
  obtain ⟨again, registries⟩ := alike.create negotiation.protocol
  have scenes : Scene.Alike scene scene := ⟨rfl, rfl, rfl⟩
  obtain ⟨granted, leased, claimed⟩ := scenes.lease free
  obtain ⟨grantedAgain, _, claimedAgain⟩ := claimed.release.lease (Scene.holder_release leased)
  let middle (registry : Registry σ) (phase : Phase σ) (scene : Scene) : Moment (Supplies κ) σ :=
    ⟨{ negotiation with route := .direct, registry, phase }, surroundings, scene⟩
  let first := (negotiation.registry.create negotiation.protocol).2
  let second := (first.create negotiation.protocol).2
  let loop : Phase σ := loopOf negotiation.settings bound [negotiation.protocol]
  have entering (scene : Scene) :
      (middle first (.tookOverFree declined .notSupported) scene).negotiation.advance surroundings =
        (middle first (.tookOverFree declined .notSupported) scene).negotiation.enter
          (fun handler =>
            .claiming (loopOf negotiation.settings handler [negotiation.protocol]))
          surroundings := rfl
  have claims : (departing negotiation surroundings scene .direct).step alarms =
      .inl (middle first (.claiming (.takingOver bound true)) scene) :=
    step_of_acceptance alarms (advance_direct _ _ phase) made accepted
  have leases : (middle first (.claiming (.takingOver bound true)) scene).step alarms =
      .inl (middle first (.takingOver bound true) scene.lease.2) := step_claiming alarms rfl granted
  have declining : (middle first (.takingOver bound true) scene.lease.2).step alarms =
      .inl (middle first (.tookOver declined .notSupported) scene.lease.2) :=
    step_of_declining rfl declines
  have releases : (middle first (.tookOver declined .notSupported) scene.lease.2).step alarms =
      .inl (middle first (.tookOverFree declined .notSupported) scene.lease.2.release) :=
    step_tookOver alarms rfl (by simp)
  have beginsAgain :
      (middle first (.tookOverFree declined .notSupported) scene.lease.2.release).step alarms =
        .inl (middle second (.claiming loop) scene.lease.2.release) :=
    step_of_acceptance alarms (entering _) (again.trans made) accepted
  have leasesAgain : (middle second (.claiming loop) scene.lease.2.release).step alarms =
      .inl (middle second loop scene.lease.2.release.lease.2) :=
    step_claiming alarms rfl grantedAgain
  have blobs :=
    step_of_acceptance alarms (advance_blobs surroundings scene phase) made accepted
  refine ⟨5, 0, _, _, .step claims (.step leases (.step declining (.step releases
    (.step beginsAgain (.step leasesAgain .here))))), .step blobs .here, ?_⟩
  exact ⟨rfl, rfl, registries, .calling _, rfl, claimedAgain⟩

theorem depart_taking [KeyStore κ] {inject : SharedKey → σ}
    (carries : Handler.Carries (Supplies κ) inject) (phase : negotiation.phase = .opening)
    {handler : σ} {bound : SharedKey} (free : scene.shared.holder = none)
    (capacity : negotiation.settings.blobCapacity = takeoverCapacity)
    (made : (negotiation.registry.create negotiation.protocol).1 = .ok handler)
    (accepted : begin negotiation.start surroundings handler = ⟨true, inject bound, later⟩)
    (ready : bound.Ready) :
    GoOnTo alarms (Together inject) (departing negotiation surroundings scene .direct)
      (departing negotiation surroundings scene .blobs) := by
  have scenes : Scene.Alike scene scene := ⟨rfl, rfl, rfl⟩
  obtain ⟨granted, leased, claimed⟩ := scenes.lease free
  let middle (phase : Phase σ) (scene : Scene) : Moment (Supplies κ) σ :=
    ⟨{ negotiation with
      route := .direct
      registry := (negotiation.registry.create negotiation.protocol).2
      phase }, later, scene⟩
  let opened : SharedKey :=
    { bound with
      lifecycle := { bound.lifecycle with exchange := some .takeover, stage := .exchanging }
      desk := Blob.blank takeoverCapacity }
  have claims : (departing negotiation surroundings scene .direct).step alarms =
      .inl (middle (.claiming (.takingOver (inject bound) true)) scene) :=
    step_of_acceptance alarms (advance_direct _ _ phase) made accepted
  have leases : (middle (.claiming (.takingOver (inject bound) true)) scene).step alarms =
      .inl (middle (.takingOver (inject bound) true) scene.lease.2) :=
    step_claiming alarms rfl granted
  have opens : (middle (.takingOver (inject bound) true) scene.lease.2).step alarms =
      .inl (middle (.takingOver (inject opened) false) scene.lease.2) := by
    rw [step_takingOver alarms carries rfl rfl, if_pos rfl,
      SharedKey.takeOver_of_enter (ready.lifecycle.enter .takeover)]
    rfl
  have blobs :=
    step_of_acceptance alarms (advance_blobs surroundings scene phase) made accepted
  refine ⟨2, 0, _, _, .step claims (.step leases (.step opens .here)), .step blobs .here,
    Or.inl ⟨opened, _, ⟨rfl, rfl, .refl _, rfl, claimed, leased⟩, rfl, rfl, ?_, rfl⟩⟩
  refine ⟨⟨bound, rfl, rfl, rfl, ready.lifecycle.enter .blob, rfl⟩, Blob.capacity_blank _,
    (Blob.capacity_blank _).trans capacity, fun consuming => ?_, fun _ => rfl⟩
  exact absurd (ready.consuming.symm.trans consuming) (by decide)

end Departing

variable {κ τ : Type} [KeyStore κ] [HasFace τ] [Handler (Supplies κ) τ]

/-- A registry in which each built-in protocol, if it is there, has its built-in handler. -/
structure Equipped (registry : Registry (BuiltIn ⊕ τ)) (names : List String) : Prop where
  sharedKey (variant : Variant) (factory : Factory (BuiltIn ⊕ τ)) :
    registry.factories.get? variant.protocol = some factory →
      ∀ number, factory.make number = .inl (BuiltIn.sharedKey variant)
  envelope (factory : Factory (BuiltIn ⊕ τ)) :
    registry.factories.get? Envelope.protocol = some factory →
      ∀ number, factory.make number = .inl (BuiltIn.envelope names)

def within (handler : SharedKey) : BuiltIn ⊕ τ := .inl (.inl handler)

theorem carries_within : Handler.Carries (Supplies κ) (within : SharedKey → BuiltIn ⊕ τ) :=
  Handler.carries_inl.trans Handler.carries_inl

variable {alarms : Alarms} {negotiation : Negotiation (BuiltIn ⊕ τ)} {surroundings : Supplies κ}
  {scene : Scene} {names : List String}

theorem depart_sharedKey (equipped : Equipped negotiation.registry names) {variant : Variant}
    (protocol : negotiation.protocol = variant.protocol) (phase : negotiation.phase = .opening)
    (free : scene.shared.holder = none)
    (capacity : negotiation.settings.blobCapacity = takeoverCapacity) :
    GoOnTo alarms (Together within) (departing negotiation surroundings scene .direct)
      (departing negotiation surroundings scene .blobs) := by
  have constant : ∀ factory,
      negotiation.registry.factories.get? negotiation.protocol = some factory →
      ∀ number, factory.make number = .inl (BuiltIn.sharedKey variant) := by
    rw [protocol]
    exact equipped.sharedKey variant
  rcases Registry.create_constant protocol.symm constant with failed | made
  · exact (depart_fault phase failed).together
  · have began : begin negotiation.start surroundings
        (.inl (BuiltIn.sharedKey variant) : BuiltIn ⊕ τ) =
        let initialised := begin negotiation.start surroundings (SharedKey.fresh variant)
        ⟨initialised.accepted, within initialised.handler, initialised.surroundings⟩ := by
      rw [begin.eq_def, begin.eq_def]
      cases negotiation.start <;> rfl
    have ready : (begin negotiation.start surroundings (SharedKey.fresh variant)).accepted = true →
        (begin negotiation.start surroundings (SharedKey.fresh variant)).handler.Ready := by
      rw [begin.eq_def]
      cases negotiation.start with
      | live identity role => exact SharedKey.ready_init rfl rfl identity role surroundings
      | declared attributes => exact SharedKey.ready_initFrom rfl rfl attributes surroundings
    revert began ready
    rcases begin negotiation.start surroundings (SharedKey.fresh variant) with
      ⟨_ | _, bound, later⟩
    · intro began _
      exact (depart_refusal phase made began).together
    · intro began ready
      exact depart_taking carries_within phase free capacity made began (ready rfl)

theorem depart_envelope (equipped : Equipped negotiation.registry names)
    (protocol : negotiation.protocol = Envelope.protocol) (phase : negotiation.phase = .opening)
    (free : scene.shared.holder = none) :
    GoOnTo alarms (Together within) (departing negotiation surroundings scene .direct)
      (departing negotiation surroundings scene .blobs) := by
  have constant : ∀ factory,
      negotiation.registry.factories.get? negotiation.protocol = some factory →
      ∀ number, factory.make number = .inl (BuiltIn.envelope names) := by
    rw [protocol]
    exact equipped.envelope
  rcases Registry.create_constant protocol.symm constant with failed | made
  · exact (depart_fault phase failed).together
  · have began : begin negotiation.start surroundings
        (.inl (BuiltIn.envelope names) : BuiltIn ⊕ τ) =
        let initialised := begin negotiation.start surroundings (Envelope.fresh names)
        ⟨initialised.accepted, .inl (.inr initialised.handler), initialised.surroundings⟩ := by
      rw [begin.eq_def, begin.eq_def]
      cases negotiation.start <;> rfl
    have ready : (begin negotiation.start surroundings (Envelope.fresh names)).surroundings =
          surroundings ∧
        ((begin negotiation.start surroundings (Envelope.fresh names)).accepted = true →
          (begin negotiation.start surroundings
            (Envelope.fresh names)).handler.lifecycle.Ready) := by
      rw [begin.eq_def]
      cases negotiation.start with
      | live identity role => exact Envelope.ready_init rfl identity role surroundings
      | declared attributes => exact Envelope.ready_initFrom rfl attributes surroundings
    revert began ready
    rcases begin negotiation.start surroundings (Envelope.fresh names) with
      ⟨_ | _, bound, later⟩
    · intro began _
      exact (depart_refusal phase made began).together
    · rintro began ⟨rfl, ready⟩
      obtain ⟨declined, takes⟩ := Envelope.takeOver_of_ready (ready rfl) later
      have declines : Handler.takeOver (.inl (.inr bound) : BuiltIn ⊕ τ) later =
          ⟨.inl (.inr declined), later,
            .done (.inl (.inr declined), some (.ok .notSupported))⟩ := by
        have carried : Handler.takeOver (.inl (.inr bound) : BuiltIn ⊕ τ) later =
            Handler.mapStretch Sum.inl (Handler.mapStretch Sum.inr (bound.takeOver later)) := rfl
        rw [carried, takes]
        rfl
      exact (depart_declining phase free constant made began ⟨_, declines⟩).together

theorem depart (surroundings : Supplies κ) (equipped : Equipped negotiation.registry names)
    (known : negotiation.protocol ∈ ["p9sk1", "p9sk2", "p9any"])
    (phase : negotiation.phase = .opening) (free : scene.shared.holder = none)
    (capacity : negotiation.settings.blobCapacity = takeoverCapacity) :
    GoOnTo alarms (Together within) (departing negotiation surroundings scene .direct)
      (departing negotiation surroundings scene .blobs) := by
  simp only [List.mem_cons, List.not_mem_nil, or_false] at known
  rcases known with first | second | any
  · exact depart_sharedKey equipped (first.trans (by rfl : _ = Variant.p9sk1.protocol)) phase free
      capacity
  · exact depart_sharedKey equipped (second.trans (by rfl : _ = Variant.p9sk2.protocol)) phase free
      capacity
  · exact depart_envelope equipped any phase free

/-! ## The whole run -/

def Shows {ω σ : Type} [HasFace σ] [Handler ω σ] (negotiation : Negotiation σ)
    (cancelAt : Option Nat) (surroundings : ω) (scene : Scene)
    (view : Except Fault Outcome × Script × List Nat × Nat) : Prop :=
  ∃ bound ended, negotiation.run bound cancelAt surroundings scene = some ended ∧ seen ended = view

omit [KeyStore κ] in
theorem shows_iff {σ : Type} [HasFace σ] [Handler (Supplies κ) σ] (negotiation : Negotiation σ)
    (route : Route) (cancelAt : Option Nat) (surroundings : Supplies κ) (scene : Scene)
    (quiet : (Alarms.starting cancelAt negotiation.settings scene.now).rung scene.now = none)
    (view : Except Fault Outcome × Script × List Nat × Nat) :
    Shows { negotiation with route } cancelAt surroundings scene view ↔
      ∃ ended, Ends (Alarms.starting cancelAt negotiation.settings scene.now)
        (departing negotiation surroundings scene route) ended ∧ seen ended = view := by
  have runs (bound : Nat) : { negotiation with route }.run bound cancelAt surroundings scene =
      (departing negotiation surroundings scene route).end?
        (Alarms.starting cancelAt negotiation.settings scene.now) bound := by
    simp only [run, quiet]
    rfl
  simp only [Shows, runs]
  constructor
  · rintro ⟨bound, ended, found, same⟩
    exact ⟨ended, ends_of_end? found, same⟩
  · rintro ⟨ended, ends, same⟩
    obtain ⟨bound, found⟩ := ends.end?
    exact ⟨bound, ended, found, same⟩

/--
Whatever the channel does, both routes come to the same result, leave the same channel with the
same writes behind, and ask for the same pauses, or neither comes to an end.
-/
theorem shows_direct_iff_blobs (negotiation : Negotiation (BuiltIn ⊕ τ))
    (equipped : Equipped negotiation.registry names)
    (known : negotiation.protocol ∈ ["p9sk1", "p9sk2", "p9any"])
    (phase : negotiation.phase = .opening)
    (capacity : negotiation.settings.blobCapacity = takeoverCapacity)
    (cancelAt : Option Nat) (surroundings : Supplies κ) (scene : Scene)
    (free : scene.shared.holder = none) (view : Except Fault Outcome × Script × List Nat × Nat) :
    Shows { negotiation with route := .direct } cancelAt surroundings scene view ↔
      Shows { negotiation with route := .blobs } cancelAt surroundings scene view := by
  rcases rung : (Alarms.starting cancelAt negotiation.settings scene.now).rung scene.now with
    _ | fault
  · have progresses := progresses_together
      (Alarms.starting cancelAt negotiation.settings scene.now)
      (carries_within : Handler.Carries (Supplies κ) (within : SharedKey → BuiltIn ⊕ τ))
      (fun _ => rfl)
    rw [shows_iff _ _ _ _ _ rung, shows_iff _ _ _ _ _ rung]
    exact progresses.ends_iff (depart surroundings equipped known phase free capacity) view
  · simp only [Shows, run, rung]

theorem equipped_standard :
    Equipped (Registry.standard.map .inl : Registry (BuiltIn ⊕ Rehearsed)) ["p9sk1", "p9sk2"] := by
  let registry : Registry (BuiltIn ⊕ Rehearsed) := Registry.standard.map .inl
  have first : registry.factories.get? "p9sk1" =
      some (.constant (.inl (BuiltIn.sharedKey .p9sk1))) := rfl
  have second : registry.factories.get? "p9sk2" =
      some (.constant (.inl (BuiltIn.sharedKey .p9sk2))) := rfl
  have envelope : registry.factories.get? "p9any" =
      some (.constant (.inl (BuiltIn.envelope ["p9sk1", "p9sk2"]))) := rfl
  constructor
  · intro variant factory found number
    cases variant with
    | p9sk1 =>
        cases first.symm.trans found
        rfl
    | p9sk2 =>
        cases second.symm.trans found
        rfl
  · intro factory found number
    cases envelope.symm.trans found
    rfl

def alice : Negotiation (BuiltIn ⊕ Rehearsed) :=
  { protocol := "p9any"
    start := .live (some ⟨"alice", "p9any"⟩) .client
    route := .direct
    settings := { Settings.default with blobCapacity := takeoverCapacity }
    registry := Registry.standard.map .inl }

/-- Against silence it waits until its deadline, and so it does by the other route. -/
theorem shows_direct_iff_blobs_silence :
    Shows { alice with route := .blobs } none (⟨.counting, {}⟩ : Supplies MemoryKeys)
      { shared := { channel := { reads := [.silence] } } }
      (.error (.timedOut (Span.ofMilliseconds 30000)), { reads := [.silence] }, [], 30000) := by
  apply (shows_direct_iff_blobs alice equipped_standard (by decide) rfl rfl none _ _ rfl _).mp
  exact ⟨10, _, rfl, rfl⟩

end Parley.Negotiation
