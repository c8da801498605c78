import Parley.Proofs.Envelope.Offers
import Parley.Proofs.Exchange.Opening
import Parley.Proofs.Negotiation.Routes
import Parley.Proofs.Registry.Standard

/-!
How negotiations start. A client asks for a protocol by an identity or by attributes, a server by
neither; with the key of its user at hand a client's first handler accepts, and so does a server's.
-/

namespace Parley

variable {κ : Type} [KeyStore κ] {start : Start} {asked user : String} {variant : Variant}
  {key : SecretKey} {keys : κ} {attributes : Attributes}

inductive Start.AsClient (protocol user : String) : Start → Prop
  | live : AsClient protocol user (.live (some ⟨user, protocol⟩) .client)
  | declared {attributes : Attributes} (proto : attributes.get? "proto" = some protocol)
      (named : attributes.get? "user" = some user) (role : attributes.role = .ok .client)
      (keyless : attributes.get? "key" = none) : AsClient protocol user (.declared attributes)

def Start.preferences : Start → List String
  | .live _ _ => Registry.offered
  | .declared attributes =>
    match attributes.get? "protocols" with
    | none => Registry.offered
    | some text => Envelope.normalize (Text.split Envelope.separates text)

theorem Attributes.required_of_get? (named : attributes.get? "user" = some user)
    (someUser : user ≠ "") : attributes.required "user" = .ok user := by
  have filled : user.isEmpty = false := by
    rw [Bool.eq_false_iff]
    exact fun empty => someUser (String.isEmpty_iff.mp empty)
  simp [required, named, filled]

theorem Attributes.checkProtocol_of_get? (proto : attributes.get? "proto" = some asked) :
    attributes.checkProtocol asked = .ok () := by
  rw [checkProtocol, proto]
  exact if_pos rfl

namespace SharedKey

def asClient (variant : Variant) (user : String) (key : SecretKey) : SharedKey :=
  { fresh variant with
    key := some key
    user := some user
    lifecycle :=
      (Lifecycle.fresh variant.protocol).bind (some ⟨user, variant.protocol⟩) .client }

def asServer (variant : Variant) : SharedKey := (fresh variant).initServer none

theorem primed_asClient : Primed variant .client (asClient variant user key) :=
  ⟨rfl, rfl, rfl, rfl, rfl, rfl, rfl, rfl, rfl, rfl⟩

theorem primed_asServer : Primed variant .server (asServer variant) :=
  ⟨rfl, rfl, rfl, rfl, rfl, rfl, rfl, rfl, rfl, rfl⟩

theorem init_asClient (found : (KeyStore.lookup keys user).1 = .found key) (nonces : NonceSupply) :
    (fresh variant).init (some ⟨user, variant.protocol⟩) .client (⟨nonces, keys⟩ : Supplies κ) =
      ⟨true, asClient variant user key, ⟨nonces, (KeyStore.lookup keys user).2⟩⟩ := by
  have looked : (fresh variant).lookup user (⟨nonces, keys⟩ : Supplies κ) =
      (.found key, ⟨nonces, (KeyStore.lookup keys user).2⟩) := by
    rw [← found]
    rfl
  have matching : (some (⟨user, variant.protocol⟩ : Identity)).filter
      (fun identity => identity.protocol ≠ (fresh variant).protocol) = none := by
    simp [SharedKey.protocol, fresh]
  rw [init, matching]
  simp only [initClient, looked]
  rfl

theorem init_asServer (supplies : Supplies κ) :
    (fresh variant).init none .server supplies = ⟨true, asServer variant, supplies⟩ := rfl

theorem initFrom_asClient (proto : attributes.get? "proto" = some variant.protocol)
    (named : attributes.get? "user" = some user) (role : attributes.role = .ok .client)
    (keyless : attributes.get? "key" = none) (someUser : user ≠ "") (supplies : Supplies κ) :
    (fresh variant).initFrom attributes supplies =
      (fresh variant).init (some ⟨user, variant.protocol⟩) .client supplies := by
  have configured : (fresh variant).configuration attributes =
      .ok (⟨user, variant.protocol⟩, .client, none) := by
    rw [configuration, SharedKey.protocol, fresh, Attributes.checkProtocol_of_get? proto]
    simp only [Attributes.required_of_get? named someUser, role, attributeKey, keyless]
  rw [initFrom, configured]
  rfl

end SharedKey

namespace Envelope

def asClient (user : String) (preferences : List String) : Envelope :=
  { fresh Registry.offered with
    protocols := preferences
    lifecycle := (Lifecycle.fresh protocol).bind (some ⟨user, protocol⟩) .client }

def asServer : Envelope :=
  { fresh Registry.offered with lifecycle := (Lifecycle.fresh protocol).bind none .server }

theorem normalize_offered : normalize Registry.offered = Registry.offered := by decide +kernel

theorem named_preferences (start : Start) : ∀ name ∈ start.preferences, name ≠ "" := by
  have named := named_normalize Registry.offered
  rw [normalize_offered] at named
  rw [Start.preferences.eq_def]
  split
  · exact named
  · split
    · exact named
    · exact named_normalize _

theorem primed_asClient (start : Start) : Primed .client (asClient user start.preferences) :=
  ⟨⟨rfl, rfl, rfl, rfl, rfl, named_preferences start⟩, rfl, rfl⟩

theorem primed_asServer : Primed .server asServer :=
  ⟨⟨rfl, rfl, rfl, rfl, rfl, named_normalize Registry.offered⟩, rfl, rfl⟩

variable {ω : Type} {preferences : List String}

theorem init_asClient (somePreferences : preferences ≠ []) (surroundings : ω) :
    { fresh Registry.offered with protocols := preferences }.init (some ⟨user, protocol⟩) .client
      surroundings = ⟨true, asClient user preferences, surroundings⟩ := by
  have admitted (handler : Envelope) : (some (⟨user, protocol⟩ : Identity)).filter
      (fun identity => !handler.admits identity) = none := by
    simp [admits, Option.filter]
  rw [init, if_neg (by simpa using somePreferences), admitted]
  rfl

theorem init_asServer (surroundings : ω) :
    (fresh Registry.offered).init none .server surroundings = ⟨true, asServer, surroundings⟩ := rfl

theorem initFrom_asClient (proto : attributes.get? "proto" = some protocol)
    (named : attributes.get? "user" = some user) (role : attributes.role = .ok .client)
    (someUser : user ≠ "") (somePreferences : (Start.declared attributes).preferences ≠ [])
    (surroundings : ω) :
    (fresh Registry.offered).initFrom attributes surroundings =
      ⟨true, asClient user (Start.declared attributes).preferences, surroundings⟩ := by
  have configured : (fresh Registry.offered).configureProtocols attributes =
      .ok { fresh Registry.offered with
        protocols := (Start.declared attributes).preferences } := by
    rw [Start.preferences] at somePreferences ⊢
    rw [configureProtocols]
    cases listed : attributes.get? "protocols" with
    | none =>
        rw [fresh, normalize_offered]
    | some text =>
        rw [listed] at somePreferences
        have filled := List.isEmpty_eq_false_iff.mpr somePreferences
        dsimp only at filled ⊢
        rw [filled]
        rfl
  rw [initFrom, Attributes.checkProtocol_of_get? proto]
  simp only [role, configured, Attributes.required_of_get? named someUser]
  exact init_asClient somePreferences surroundings

end Envelope

namespace Negotiation

theorem begin_sharedKey (starts : Start.AsClient variant.protocol user start) (named : user ≠ "")
    (found : (KeyStore.lookup keys user).1 = .found key) (nonces : NonceSupply) :
    begin start (⟨nonces, keys⟩ : Supplies κ) (SharedKey.fresh variant) =
      ⟨true, .asClient variant user key, ⟨nonces, (KeyStore.lookup keys user).2⟩⟩ := by
  cases starts with
  | live => exact SharedKey.init_asClient found nonces
  | declared proto user role keyless =>
      exact (SharedKey.initFrom_asClient proto user role keyless named _).trans
        (SharedKey.init_asClient found nonces)

omit [KeyStore κ] in
theorem begin_envelope (starts : Start.AsClient Envelope.protocol user start) (named : user ≠ "")
    (somePreferences : start.preferences ≠ []) (supplies : Supplies κ) :
    begin start supplies (Envelope.fresh Registry.offered) =
      ⟨true, .asClient user start.preferences, supplies⟩ := by
  cases starts with
  | live =>
      exact Envelope.init_asClient somePreferences supplies
  | declared proto user role _ =>
      exact Envelope.initFrom_asClient proto user role named somePreferences supplies

end Negotiation

end Parley
