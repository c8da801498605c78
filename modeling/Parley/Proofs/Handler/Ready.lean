import Parley.BuiltIn

/-!
Handlers that have accepted an initialisation: they are bound, no call has been made of them yet,
and they have kept nothing for a takeover.
-/

namespace Parley

structure Lifecycle.Ready (lifecycle : Lifecycle) : Prop where
  stage : lifecycle.stage = .bound
  exchange : lifecycle.exchange = none

theorem Lifecycle.Ready.enter {lifecycle : Lifecycle} (ready : lifecycle.Ready)
    (kind : ExchangeKind) :
    lifecycle.enter kind = ({ lifecycle with exchange := some kind, stage := .exchanging }, none) := by
  rcases lifecycle with ⟨face, _, _⟩
  obtain ⟨rfl, rfl⟩ := ready
  rfl

namespace SharedKey

variable {κ : Type} [KeyStore κ]

structure Ready (handler : SharedKey) : Prop where
  lifecycle : handler.lifecycle.Ready
  consuming : handler.consuming = false

theorem ready_initClient {handler : SharedKey} (unused : handler.lifecycle.exchange = none)
    (producing : handler.consuming = false) (identity : Identity) (supplies : Supplies κ)
    (accepted : (handler.initClient identity supplies).accepted = true) :
    (handler.initClient identity supplies).handler.Ready := by
  revert accepted
  rw [initClient]
  split
  · exact fun _ => ⟨⟨rfl, unused⟩, producing⟩
  · exact nofun
  · exact nofun

theorem ready_init {handler : SharedKey} (unused : handler.lifecycle.exchange = none)
    (producing : handler.consuming = false) (identity : Option Identity) (role : Role)
    (supplies : Supplies κ) (accepted : (handler.init identity role supplies).accepted = true) :
    (handler.init identity role supplies).handler.Ready := by
  revert accepted
  simp only [init]
  split
  · exact nofun
  · split
    · exact nofun
    · exact ready_initClient unused producing _ supplies
    · exact fun _ => ⟨⟨rfl, unused⟩, producing⟩

theorem ready_initFrom {handler : SharedKey} (unused : handler.lifecycle.exchange = none)
    (producing : handler.consuming = false) (attributes : Attributes) (supplies : Supplies κ)
    (accepted : (handler.initFrom attributes supplies).accepted = true) :
    (handler.initFrom attributes supplies).handler.Ready := by
  revert accepted
  rw [initFrom]
  split
  · exact nofun
  · rename_i identity role key _
    intro accepted
    have kept : { handler with ownKey := key.or handler.ownKey }.lifecycle.exchange = none := unused
    exact ready_init kept producing _ _ supplies accepted

end SharedKey

namespace Envelope

variable {ω : Type}

theorem ready_init {handler : Envelope} (unused : handler.lifecycle.exchange = none)
    (identity : Option Identity) (role : Role) (surroundings : ω) :
    (handler.init identity role surroundings).surroundings = surroundings ∧
      ((handler.init identity role surroundings).accepted = true →
        (handler.init identity role surroundings).handler.lifecycle.Ready) := by
  rw [init]
  split
  · exact ⟨rfl, nofun⟩
  · split
    · exact ⟨rfl, nofun⟩
    · split
      · exact ⟨rfl, nofun⟩
      · exact ⟨rfl, fun _ => ⟨rfl, unused⟩⟩

theorem lifecycle_configureProtocols {handler next : Envelope} {attributes : Attributes}
    (configured : handler.configureProtocols attributes = .ok next) :
    next.lifecycle = handler.lifecycle := by
  rw [configureProtocols] at configured
  split at configured
  · cases configured
    rfl
  · dsimp only at configured
    split at configured
    · cases configured
    · cases configured
      rfl

theorem ready_initFrom {handler : Envelope} (unused : handler.lifecycle.exchange = none)
    (attributes : Attributes) (surroundings : ω) :
    (handler.initFrom attributes surroundings).surroundings = surroundings ∧
      ((handler.initFrom attributes surroundings).accepted = true →
        (handler.initFrom attributes surroundings).handler.lifecycle.Ready) := by
  rw [initFrom]
  split
  · exact ⟨rfl, nofun⟩
  · split
    · exact ⟨rfl, nofun⟩
    · split
      · exact ⟨rfl, nofun⟩
      · rename_i configured
        split
        · exact ⟨rfl, nofun⟩
        · have kept := lifecycle_configureProtocols configured
          exact ready_init (by rw [kept, unused]) _ _ surroundings

theorem takeOver_of_ready {handler : Envelope} (ready : handler.lifecycle.Ready)
    (surroundings : ω) :
    ∃ declined, handler.takeOver surroundings =
      ⟨declined, surroundings, .done (declined, some (.ok .notSupported))⟩ := by
  rw [takeOver, ready.enter]
  exact ⟨_, rfl⟩

end Envelope

end Parley
