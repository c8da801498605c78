import Parley.Envelope
import Parley.Proofs.Attributes.Setup

/-!
How envelopes are set up: exactly whom they accept, and what they say of those whom they refuse. A
refusal may leave protocols behind that the attributes list.
-/

namespace Parley.Envelope

variable {ω : Type} {handler : Envelope} {attributes : Attributes} {identity : Option Identity}
  {asked : Role} {surroundings : ω} {user : String} {listed : List String}

/-! ## From an identity and a role -/

/-- Whom an envelope accepts: whoever has an identity that is of use in it, or a server without. -/
structure Admits (handler : Envelope) (identity : Option Identity) (role : Role) : Prop where
  listing : handler.protocols ≠ []
  usable : ∀ given, identity = some given →
    given.protocol = protocol ∨ given.protocol ∈ handler.protocols
  named : role = .client → identity ≠ none

def refused (handler : Envelope) (reason : String) : Envelope :=
  { handler with lifecycle := handler.lifecycle.refuse reason }

theorem admits_iff {given : Identity} :
    handler.admits given = true ↔
      given.protocol = protocol ∨ given.protocol ∈ handler.protocols := by
  simp [admits]

theorem accepted_init_iff :
    (handler.init identity asked surroundings).accepted = true ↔
      handler.Admits identity asked := by
  rw [init]
  by_cases noneListed : handler.protocols = []
  · rw [if_pos (List.isEmpty_iff.mpr noneListed)]
    exact ⟨nofun, fun admits => absurd noneListed admits.listing⟩
  · rw [if_neg (fun empty => noneListed (List.isEmpty_iff.mp empty))]
    split
    · rename_i foreign found
      obtain ⟨given, useless⟩ := Option.filter_eq_some_iff.mp found
      have notAdmitted : ¬ handler.admits foreign = true := by simpa using useless
      exact ⟨nofun, fun admits => absurd (admits_iff.mpr (admits.usable foreign given)) notAdmitted⟩
    · rename_i nobodyForeign
      have usable : ∀ given, identity = some given →
          given.protocol = protocol ∨ given.protocol ∈ handler.protocols := by
        intro given found
        have admitted := Option.filter_eq_none_iff.mp nobodyForeign given found
        exact admits_iff.mp (by simpa using admitted)
      by_cases nameless : asked = .client ∧ identity.isNone = true
      · rw [if_pos nameless]
        refine ⟨nofun, fun admits => ?_⟩
        exact absurd (Option.isNone_iff_eq_none.mp nameless.2) (admits.named nameless.1)
      · rw [if_neg nameless]
        refine ⟨fun _ => ⟨noneListed, usable, fun client nobody => ?_⟩, fun _ => rfl⟩
        exact nameless ⟨client, Option.isNone_iff_eq_none.mpr nobody⟩

theorem refused_init (declined : (handler.init identity asked surroundings).accepted = false) :
    ∃ reason, handler.init identity asked surroundings =
      ⟨false, handler.refused reason, surroundings⟩ := by
  revert declined
  rw [init]
  split
  · exact fun _ => ⟨_, rfl⟩
  · split
    · exact fun _ => ⟨_, rfl⟩
    · split
      · exact fun _ => ⟨_, rfl⟩
      · nofun

/-! ## From attributes -/

inductive Lists (handler : Envelope) (attributes : Attributes) : List String → Prop
  | own (absent : attributes.get? "protocols" = none) : Lists handler attributes handler.protocols
  | given {text : String} (found : attributes.get? "protocols" = some text)
      (usable : normalize (Text.split separates text) ≠ []) :
      Lists handler attributes (normalize (Text.split separates text))

structure Fit (handler : Envelope) (attributes : Attributes) (user : String) (role : Role)
    (listed : List String) : Prop where
  speaks : attributes.Speaks protocol
  plays : attributes.Plays role
  lists : handler.Lists attributes listed
  names : attributes.Names user

theorem configureProtocols_cases (handler : Envelope) (attributes : Attributes) :
    (∃ listed, handler.Lists attributes listed ∧
      handler.configureProtocols attributes = .ok { handler with protocols := listed }) ∨
      ∃ text, attributes.get? "protocols" = some text ∧
        normalize (Text.split separates text) = [] ∧
        handler.configureProtocols attributes =
          .error (.invalidAttribute "protocols" .noProtocols) := by
  rcases found : attributes.get? "protocols" with _ | text
  · refine Or.inl ⟨handler.protocols, .own found, ?_⟩
    rw [configureProtocols, found]
  · simp only [configureProtocols, found]
    by_cases empty : normalize (Text.split separates text) = []
    · rw [if_pos (List.isEmpty_iff.mpr empty)]
      exact Or.inr ⟨text, rfl, empty, rfl⟩
    · rw [if_neg (fun noneListed => empty (List.isEmpty_iff.mp noneListed))]
      exact Or.inl ⟨_, .given found empty, rfl⟩

theorem Lists.unique {other : List String} (lists : handler.Lists attributes listed)
    (others : handler.Lists attributes other) : listed = other := by
  cases lists with
  | own absent =>
      cases others with
      | own _ => rfl
      | given found _ => cases absent.symm.trans found
  | given found _ =>
      cases others with
      | own absent => cases absent.symm.trans found
      | given again _ =>
          obtain rfl := Option.some.inj (found.symm.trans again)
          rfl

theorem Lists.configure (lists : handler.Lists attributes listed) :
    handler.configureProtocols attributes = .ok { handler with protocols := listed } := by
  rcases handler.configureProtocols_cases attributes with ⟨other, others, passed⟩ |
    ⟨text, found, empty, _⟩
  · rw [lists.unique others, passed]
  · cases lists with
    | own absent => cases absent.symm.trans found
    | given again usable =>
        obtain rfl := Option.some.inj (found.symm.trans again)
        exact absurd empty usable

theorem Fit.initFrom (fit : handler.Fit attributes user asked listed) (surroundings : ω) :
    handler.initFrom attributes surroundings =
      { handler with protocols := listed }.init (some ⟨user, protocol⟩) asked surroundings := by
  rw [Envelope.initFrom, fit.speaks.check, fit.plays.role_eq, fit.lists.configure,
    fit.names.required]

inductive Declines (handler : Envelope) (attributes : Attributes) : String → List String → Prop
  | protocol {stated : String} (found : attributes.get? "proto" = some stated)
      (other : stated ≠ protocol) :
      Declines handler attributes
        (Fault.invalidAttribute "proto" (.otherProtocol protocol stated)).message
        handler.protocols
  | role {text : String} (speaks : attributes.Speaks protocol)
      (found : attributes.get? "role" = some text)
      (unknown : ∀ role : Role, Text.lowerAscii text ≠ role.text) :
      Declines handler attributes
        (Fault.invalidAttribute "role" (.unknownRole (Text.lowerAscii text))).message
        handler.protocols
  | list {role : Role} {text : String} (speaks : attributes.Speaks protocol)
      (plays : attributes.Plays role) (found : attributes.get? "protocols" = some text)
      (empty : normalize (Text.split separates text) = []) :
      Declines handler attributes
        (Fault.invalidAttribute "protocols" .noProtocols).message handler.protocols
  | user {role : Role} {listed : List String} (speaks : attributes.Speaks protocol)
      (plays : attributes.Plays role) (lists : handler.Lists attributes listed)
      (noneNamed : ∀ user, ¬ attributes.Names user) :
      Declines handler attributes (Fault.missingAttribute "user").message listed
  | unlisted {user : String} {role : Role} {listed : List String}
      (fit : handler.Fit attributes user role listed) (nothing : listed = []) :
      Declines handler attributes "no protocols to negotiate" listed

theorem initFrom_cases (handler : Envelope) (attributes : Attributes) (surroundings : ω) :
    (∃ user role listed, handler.Fit attributes user role listed ∧
      (handler.initFrom attributes surroundings).accepted = true) ∨
      ∃ reason listed, Declines handler attributes reason listed ∧
        handler.initFrom attributes surroundings =
          ⟨false, { handler with protocols := listed }.refused reason, surroundings⟩ := by
  rcases attributes.checkProtocol_cases protocol with ⟨speaks, passed⟩ |
    ⟨stated, found, other, failed⟩
  · rcases attributes.role_cases with ⟨role, plays, played⟩ | ⟨text, found, unknown, failed⟩
    · rcases handler.configureProtocols_cases attributes with ⟨listed, lists, configured⟩ |
        ⟨text, found, empty, failed⟩
      · rcases attributes.required_user_cases with ⟨user, names, _⟩ | ⟨noneNamed, failed⟩
        · have fit : handler.Fit attributes user role listed := ⟨speaks, plays, lists, names⟩
          by_cases empty : listed = []
          · refine Or.inr ⟨_, listed, .unlisted fit empty, ?_⟩
            rw [fit.initFrom, init, if_pos (List.isEmpty_iff.mpr empty)]
            rfl
          · refine Or.inl ⟨user, role, listed, fit, ?_⟩
            rw [fit.initFrom, accepted_init_iff]
            refine ⟨empty, ?_, nofun⟩
            rintro _ ⟨⟩
            exact Or.inl rfl
        · rw [initFrom, passed, played, configured, failed]
          exact Or.inr ⟨_, listed, .user speaks plays lists noneNamed, rfl⟩
      · rw [initFrom, passed, played, failed]
        exact Or.inr ⟨_, _, .list speaks plays found empty, rfl⟩
    · rw [initFrom, passed, failed]
      exact Or.inr ⟨_, _, .role speaks found unknown, rfl⟩
  · rw [initFrom, failed]
    exact Or.inr ⟨_, _, .protocol found other, rfl⟩

theorem accepted_initFrom_iff :
    (handler.initFrom attributes surroundings).accepted = true ↔
      ∃ user role listed, handler.Fit attributes user role listed ∧
        Admits { handler with protocols := listed } (some ⟨user, protocol⟩) role := by
  constructor
  · intro accepted
    rcases handler.initFrom_cases attributes surroundings with ⟨user, role, listed, fit, _⟩ |
      ⟨reason, listed, _, declined⟩
    · rw [fit.initFrom] at accepted
      exact ⟨user, role, listed, fit, accepted_init_iff.mp accepted⟩
    · rw [declined] at accepted
      cases accepted
  · rintro ⟨user, role, listed, fit, admits⟩
    rw [fit.initFrom]
    exact accepted_init_iff.mpr admits

theorem refused_initFrom
    (declined : (handler.initFrom attributes surroundings).accepted = false) :
    ∃ reason listed, Declines handler attributes reason listed ∧
      handler.initFrom attributes surroundings =
        ⟨false, { handler with protocols := listed }.refused reason, surroundings⟩ := by
  rcases handler.initFrom_cases attributes surroundings with ⟨_, _, _, _, accepted⟩ | same
  · cases accepted.symm.trans declined
  · exact same

/--
The attributes list protocols of use and lack nothing but a user, which an envelope looks for last.
-/
structure Relists (attributes : Attributes) (listed : List String) : Prop where
  speaks : attributes.Speaks protocol
  plays : ∃ role, attributes.Plays role
  found : ∃ text, attributes.get? "protocols" = some text ∧
    listed = normalize (Text.split separates text)
  usable : listed ≠ []
  noneNamed : ∀ user, ¬ attributes.Names user

theorem Declines.kept {reason : String} (declines : handler.Declines attributes reason listed) :
    listed = handler.protocols ∨ Relists attributes listed := by
  cases declines with
  | protocol _ _ => exact Or.inl rfl
  | role _ _ _ => exact Or.inl rfl
  | list _ _ _ _ => exact Or.inl rfl
  | user speaks plays lists noneNamed =>
      cases lists with
      | own _ => exact Or.inl rfl
      | given found usable =>
          exact Or.inr ⟨speaks, ⟨_, plays⟩, ⟨_, found, rfl⟩, usable, noneNamed⟩
  | unlisted fit nothing =>
      cases fit.lists with
      | own _ => exact Or.inl rfl
      | given _ usable => exact absurd nothing usable

theorem Relists.left (relists : Relists attributes listed) (handler : Envelope)
    (surroundings : ω) :
    handler.initFrom attributes surroundings =
      ⟨false, { handler with protocols := listed }.refused
        (Fault.missingAttribute "user").message, surroundings⟩ := by
  obtain ⟨speaks, ⟨role, plays⟩, ⟨text, found, rfl⟩, usable, noneNamed⟩ := relists
  have lists : handler.Lists attributes _ := .given found usable
  rcases attributes.required_user_cases with ⟨user, names, _⟩ | ⟨_, failed⟩
  · exact absurd names (noneNamed user)
  · rw [initFrom, speaks.check, plays.role_eq, lists.configure, failed]
    rfl

theorem init_refused (handler : Envelope) (reason : String) (identity : Option Identity)
    (role : Role) (surroundings : ω) :
    (handler.refused reason).init identity role surroundings =
      handler.init identity role surroundings := rfl

theorem initFrom_refused (handler : Envelope) (reason : String) (attributes : Attributes)
    (surroundings : ω) :
    (handler.refused reason).initFrom attributes surroundings =
      handler.initFrom attributes surroundings := by
  have configured :
      (handler.refused reason).configureProtocols attributes =
        (handler.configureProtocols attributes).map (·.refused reason) := by
    simp only [configureProtocols]
    split
    · rfl
    · split <;> rfl
  simp only [initFrom, configured]
  rcases attributes.checkProtocol protocol with _ | _
  · rfl
  · rcases attributes.role with _ | _
    · rfl
    · rcases handler.configureProtocols attributes with _ | middle
      · rfl
      · rcases attributes.required "user" with _ | _ <;> rfl

end Parley.Envelope
