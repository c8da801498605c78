import Parley.Proofs.Attributes.Setup
import Parley.SharedKey.Setup

/-!
How shared-key handlers are set up: exactly whom they accept, and what they say of those whom they
refuse. A refusal changes nothing but what the handler shows, whichever attributes came with it.
-/

namespace Parley.SharedKey

variable {κ : Type} [KeyStore κ] {handler : SharedKey} {attributes : Attributes}
  {identity : Option Identity} {asked : Role} {supplies : Supplies κ} {user : String}
  {key : Option SecretKey} {fault : Fault}

/-! ## From an identity and a role -/

/-- Whom a handler accepts: nobody of another protocol, and as a client only who has a key. -/
structure Admits (handler : SharedKey) (keys : κ) (identity : Option Identity) (role : Role) :
    Prop where
  own : ∀ given, identity = some given → given.protocol = handler.protocol
  keyed : role = .client → ∃ given, identity = some given ∧
    (handler.ownKey ≠ none ∨ ∃ key, (KeyStore.lookup keys given.name).1 = .found key)

def refused (handler : SharedKey) (reason : String) : SharedKey :=
  { handler with lifecycle := handler.lifecycle.refuse reason }

inductive Keyless (handler : SharedKey) (user : String) (supplies : Supplies κ) :
    String → Supplies κ → Prop
  | missing {keys : κ} (noneOwn : handler.ownKey = none)
      (looked : KeyStore.lookup supplies.keys user = (.missing, keys)) :
      Keyless handler user supplies ("no key for user " ++ user) { supplies with keys }
  | locked {seconds : Nat} {keys : κ} (noneOwn : handler.ownKey = none)
      (looked : KeyStore.lookup supplies.keys user = (.locked seconds, keys)) :
      Keyless handler user supplies
        ("key for user " ++ user ++ " is locked, retry in " ++ toString seconds ++ "s")
        { supplies with keys }

theorem initClient_cases (handler : SharedKey) (identity : Identity) (supplies : Supplies κ) :
    (handler.initClient identity supplies).accepted = true ∧
        (handler.ownKey ≠ none ∨
          ∃ key, (KeyStore.lookup supplies.keys identity.name).1 = .found key) ∨
      ∃ reason later, Keyless handler identity.name supplies reason later ∧
        handler.initClient identity supplies = ⟨false, handler.refused reason, later⟩ := by
  rw [initClient, lookup]
  rcases own : handler.ownKey with _ | key
  · dsimp only [Supplies.lookup]
    rcases looked : KeyStore.lookup supplies.keys identity.name with ⟨key | _ | seconds, keys⟩
    · exact Or.inl ⟨rfl, Or.inr ⟨key, rfl⟩⟩
    · exact Or.inr ⟨_, _, .missing own looked, rfl⟩
    · exact Or.inr ⟨_, _, .locked own looked, rfl⟩
  · exact Or.inl ⟨rfl, Or.inl nofun⟩

theorem accepted_initClient_iff {identity : Identity} :
    (handler.initClient identity supplies).accepted = true ↔
      handler.ownKey ≠ none ∨
        ∃ key, (KeyStore.lookup supplies.keys identity.name).1 = .found key := by
  rcases initClient_cases handler identity supplies with ⟨accepted, keyed⟩ |
    ⟨reason, later, keyless, declined⟩
  · exact ⟨fun _ => keyed, fun _ => accepted⟩
  · rw [declined]
    refine ⟨nofun, fun keyed => ?_⟩
    cases keyless with
    | missing noneOwn looked =>
        rw [looked, noneOwn] at keyed
        rcases keyed with own | ⟨key, found⟩
        · exact absurd rfl own
        · cases found
    | locked noneOwn looked =>
        rw [looked, noneOwn] at keyed
        rcases keyed with own | ⟨key, found⟩
        · exact absurd rfl own
        · cases found

theorem init_foreign {given : Identity} (role : Role) (supplies : Supplies κ)
    (foreign : given.protocol ≠ handler.protocol) :
    ∃ reason, handler.init (some given) role supplies =
      ⟨false, handler.refused reason, supplies⟩ := by
  simp only [init, Option.filter, decide_eq_true foreign, if_true]
  exact ⟨_, rfl⟩

theorem init_client {given : Identity} (supplies : Supplies κ)
    (own : given.protocol = handler.protocol) :
    handler.init (some given) .client supplies = handler.initClient given supplies := by
  have native : ¬ given.protocol ≠ handler.protocol := fun other => other own
  simp only [init, Option.filter, decide_eq_false native, Bool.false_eq_true, if_false]

theorem init_server (supplies : Supplies κ)
    (own : ∀ given, identity = some given → given.protocol = handler.protocol) :
    handler.init identity .server supplies =
      ⟨true, handler.initServer identity, supplies⟩ := by
  rcases identity with _ | given
  · rfl
  · have native : ¬ given.protocol ≠ handler.protocol := fun other => other (own given rfl)
    simp only [init, Option.filter, decide_eq_false native, Bool.false_eq_true, if_false]

theorem accepted_init_iff :
    (handler.init identity asked supplies).accepted = true ↔
      handler.Admits supplies.keys identity asked := by
  by_cases own : ∀ given, identity = some given → given.protocol = handler.protocol
  · cases asked with
    | server =>
        rw [init_server supplies own]
        exact ⟨fun _ => ⟨own, nofun⟩, fun _ => rfl⟩
    | client =>
        rcases identity with _ | given
        · refine ⟨nofun, fun admits => ?_⟩
          obtain ⟨given, found, _⟩ := admits.keyed rfl
          cases found
        · rw [init_client supplies (own given rfl), accepted_initClient_iff]
          constructor
          · exact fun keyed => ⟨own, fun _ => ⟨given, rfl, keyed⟩⟩
          · intro admits
            obtain ⟨_, ⟨⟩, keyed⟩ := admits.keyed rfl
            exact keyed
  · refine ⟨fun accepted => ?_, fun admits => absurd admits.own own⟩
    rcases identity with _ | given
    · exact absurd nofun own
    · have foreign : given.protocol ≠ handler.protocol := by
        intro same
        refine own fun other found => ?_
        cases found
        exact same
      obtain ⟨reason, declined⟩ := init_foreign asked supplies foreign
      rw [declined] at accepted
      cases accepted

theorem refused_init (declined : (handler.init identity asked supplies).accepted = false) :
    ∃ reason later, handler.init identity asked supplies =
      ⟨false, handler.refused reason, later⟩ := by
  revert declined
  simp only [init]
  split
  · exact fun _ => ⟨_, _, rfl⟩
  · split
    · exact fun _ => ⟨_, _, rfl⟩
    · rename_i given _
      rcases initClient_cases handler given supplies with ⟨accepted, _⟩ |
        ⟨reason, later, _, same⟩
      · rw [accepted]
        nofun
      · exact fun _ => ⟨reason, later, same⟩
    · nofun

/-! ## From attributes -/

structure Fit (handler : SharedKey) (attributes : Attributes) (user : String) (role : Role)
    (key : Option SecretKey) : Prop where
  speaks : attributes.Speaks handler.protocol
  names : attributes.Names user
  plays : attributes.Plays role
  brings : attributes.Brings key

/-- The first thing that is wrong with attributes, in the order in which a handler goes by them. -/
inductive Unfit (handler : SharedKey) (attributes : Attributes) : Fault → Prop
  | protocol {stated : String} (found : attributes.get? "proto" = some stated)
      (other : stated ≠ handler.protocol) :
      Unfit handler attributes
        (.invalidAttribute "proto" (.otherProtocol handler.protocol stated))
  | user (speaks : attributes.Speaks handler.protocol)
      (noneNamed : ∀ user, ¬ attributes.Names user) :
      Unfit handler attributes (.missingAttribute "user")
  | role {user text : String} (speaks : attributes.Speaks handler.protocol)
      (names : attributes.Names user) (found : attributes.get? "role" = some text)
      (unknown : ∀ role : Role, Text.lowerAscii text ≠ role.text) :
      Unfit handler attributes
        (.invalidAttribute "role" (.unknownRole (Text.lowerAscii text)))
  | key {user text : String} {role : Role} {fault : Fault}
      (speaks : attributes.Speaks handler.protocol) (names : attributes.Names user)
      (plays : attributes.Plays role) (found : attributes.get? "key" = some text)
      (unreadable : SecretKey.ofHex text = .error fault) : Unfit handler attributes fault

omit [KeyStore κ] in
theorem configuration_cases (handler : SharedKey) (attributes : Attributes) :
    (∃ user role key, handler.Fit attributes user role key ∧
      handler.configuration attributes = .ok (⟨user, handler.protocol⟩, role, key)) ∨
      ∃ fault, handler.Unfit attributes fault ∧
        handler.configuration attributes = .error fault := by
  rw [configuration]
  rcases attributes.checkProtocol_cases handler.protocol with ⟨speaks, passed⟩ |
    ⟨stated, found, other, failed⟩
  · rw [passed]
    rcases attributes.required_user_cases with ⟨user, names, passed⟩ | ⟨noneNamed, failed⟩
    · rw [passed]
      rcases attributes.role_cases with ⟨role, plays, passed⟩ | ⟨text, found, unknown, failed⟩
      · rw [passed]
        rcases found : attributes.get? "key" with _ | text
        · simp only [attributeKey, found]
          exact Or.inl ⟨user, role, none, ⟨speaks, names, plays, .nothing found⟩, rfl⟩
        · simp only [attributeKey, found]
          rcases read : SecretKey.ofHex text with fault | key
          · exact Or.inr ⟨fault, .key speaks names plays found read, rfl⟩
          · have spelled := SecretKey.ofHex_eq_ok_iff.mp read
            exact Or.inl ⟨user, role, some key, ⟨speaks, names, plays, .key found spelled⟩, rfl⟩
      · rw [failed]
        exact Or.inr ⟨_, .role speaks names found unknown, rfl⟩
    · rw [failed]
      exact Or.inr ⟨_, .user speaks noneNamed, rfl⟩
  · rw [failed]
    exact Or.inr ⟨_, .protocol found other, rfl⟩

omit [KeyStore κ] in
theorem Fit.configuration (fit : handler.Fit attributes user asked key) :
    handler.configuration attributes = .ok (⟨user, handler.protocol⟩, asked, key) := by
  have read : attributeKey attributes = .ok key := by
    rw [attributeKey]
    cases fit.brings with
    | nothing absent => rw [absent]
    | key found spelled =>
        rw [found]
        dsimp only
        rw [SecretKey.ofHex_eq_ok_iff.mpr spelled]
  rw [SharedKey.configuration, fit.speaks.check, fit.names.required, fit.plays.role_eq, read]

theorem Fit.initFrom (fit : handler.Fit attributes user asked key) (supplies : Supplies κ) :
    handler.initFrom attributes supplies =
      { handler with ownKey := key.or handler.ownKey }.init (some ⟨user, handler.protocol⟩) asked
        supplies := by
  rw [SharedKey.initFrom, fit.configuration]

theorem accepted_initFrom_iff :
    (handler.initFrom attributes supplies).accepted = true ↔
      ∃ user role key, handler.Fit attributes user role key ∧
        Admits { handler with ownKey := key.or handler.ownKey } supplies.keys
          (some ⟨user, handler.protocol⟩) role := by
  constructor
  · intro accepted
    rcases handler.configuration_cases attributes with ⟨user, role, key, fit, _⟩ |
      ⟨fault, _, failed⟩
    · rw [fit.initFrom] at accepted
      exact ⟨user, role, key, fit, accepted_init_iff.mp accepted⟩
    · rw [SharedKey.initFrom, failed] at accepted
      cases accepted
  · rintro ⟨user, role, key, fit, admits⟩
    rw [fit.initFrom]
    exact accepted_init_iff.mpr admits

inductive Declines (handler : SharedKey) (attributes : Attributes) (supplies : Supplies κ) :
    String → Supplies κ → Prop
  | unfit {fault : Fault} (unfit : handler.Unfit attributes fault) :
      Declines handler attributes supplies fault.message supplies
  | keyless {user reason : String} {later : Supplies κ}
      (fit : handler.Fit attributes user .client none)
      (keyless : Keyless handler user supplies reason later) :
      Declines handler attributes supplies reason later

/--
A refusal leaves the handler as it was. A key from the attributes is never left behind, since a
handler that has a key of its own does not refuse.
-/
theorem refused_initFrom (declined : (handler.initFrom attributes supplies).accepted = false) :
    ∃ reason later, Declines handler attributes supplies reason later ∧
      handler.initFrom attributes supplies = ⟨false, handler.refused reason, later⟩ := by
  rcases handler.configuration_cases attributes with ⟨user, role, key, fit, _⟩ |
    ⟨fault, unfit, failed⟩
  · rw [fit.initFrom] at declined ⊢
    cases role with
    | server =>
        rw [init_server supplies] at declined
        · cases declined
        · rintro _ ⟨⟩
          rfl
    | client =>
        rw [init_client supplies rfl] at declined ⊢
        rcases initClient_cases { handler with ownKey := key.or handler.ownKey }
          ⟨user, handler.protocol⟩ supplies with ⟨accepted, _⟩ | ⟨reason, later, keyless, same⟩
        · cases accepted.symm.trans declined
        · have noneOwn : key.or handler.ownKey = none := by
            cases keyless with
            | missing noneOwn _ => exact noneOwn
            | locked noneOwn _ => exact noneOwn
          obtain ⟨rfl, _⟩ := Option.or_eq_none_iff.mp noneOwn
          exact ⟨reason, later, .keyless fit keyless, same⟩
  · rw [SharedKey.initFrom, failed]
    exact ⟨_, _, .unfit unfit, rfl⟩

theorem init_refused (handler : SharedKey) (reason : String) (identity : Option Identity)
    (role : Role) (supplies : Supplies κ) :
    (handler.refused reason).init identity role supplies = handler.init identity role supplies :=
  rfl

theorem initFrom_refused (handler : SharedKey) (reason : String) (attributes : Attributes)
    (supplies : Supplies κ) :
    (handler.refused reason).initFrom attributes supplies =
      handler.initFrom attributes supplies :=
  rfl

end Parley.SharedKey
