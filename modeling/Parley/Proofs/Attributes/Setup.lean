import Parley.Attributes
import Parley.Keys

/-!
What attributes ask for when a handler is set up from them: whether they are meant for its protocol,
and the user, the role and the key that they name.
-/

namespace Parley

namespace Hex

inductive Spells : Bytes → Bytes → Prop
  | nil : Spells [] []
  | pair {high low : UInt8} {upper lower : Nat} {digits bytes : Bytes}
      (first : digitValue high.toNat = some upper) (second : digitValue low.toNat = some lower)
      (rest : Spells digits bytes) :
      Spells (high :: low :: digits) (UInt8.ofNat (upper * 16 + lower) :: bytes)

theorem decodePairs_of_spells {digits bytes : Bytes} (spells : Spells digits bytes)
    (position : Nat) : digits.length % 2 = 0 ∧ decodePairs position digits = .ok bytes := by
  induction spells generalizing position with
  | nil => exact ⟨rfl, rfl⟩
  | pair first second _ ih =>
      obtain ⟨even, read⟩ := ih (position + 2)
      refine ⟨?_, ?_⟩
      · rw [List.length_cons, List.length_cons]
        omega
      · rw [decodePairs, first, second, read]

theorem spells_of_decodePairs {digits bytes : Bytes} {position : Nat}
    (even : digits.length % 2 = 0) (read : decodePairs position digits = .ok bytes) :
    Spells digits bytes := by
  induction position, digits using decodePairs.induct generalizing bytes with
  | case1 position high low rest first =>
      rw [decodePairs, first] at read
      cases read
  | case2 position high low rest upper second first =>
      rw [decodePairs, first, second] at read
      cases read
  | case3 position high low rest upper lower second first error failed ih =>
      rw [decodePairs, first, second, failed] at read
      cases read
  | case4 position high low rest upper lower second first bytes found ih =>
      rw [decodePairs, first, second, found] at read
      cases read
      rw [List.length_cons, List.length_cons] at even
      exact .pair first second (ih (by omega) found)
  | case5 digits position notPair =>
      rcases digits with _ | ⟨high, _ | ⟨low, rest⟩⟩
      · cases read
        exact .nil
      · cases even
      · exact absurd rfl (notPair high low rest)

theorem decode_eq_ok_iff {text : String} {bytes : Bytes} :
    decode text = .ok bytes ↔ Spells (Bytes.ofText text) bytes := by
  simp only [decode]
  constructor
  · intro read
    split at read
    · exact spells_of_decodePairs ‹_› read
    · cases read
  · intro spells
    obtain ⟨even, read⟩ := decodePairs_of_spells spells 0
    rw [if_pos even, read]

end Hex

def SecretKey.Spelled (key : SecretKey) (text : String) : Prop :=
  Hex.Spells (Bytes.ofText (Text.trim text)) key.bytes ∧ key.bytes ≠ []

theorem SecretKey.ofHex_eq_ok_iff {text : String} {key : SecretKey} :
    SecretKey.ofHex text = .ok key ↔ key.Spelled text := by
  rw [SecretKey.ofHex, Spelled, ← Hex.decode_eq_ok_iff]
  split
  · rename_i failed
    simp [failed]
  · rename_i bytes decoded
    rw [decoded, Except.ok.injEq]
    split
    · rename_i empty
      rw [List.isEmpty_iff] at empty
      subst empty
      constructor
      · nofun
      · rintro ⟨same, someByte⟩
        exact absurd same.symm someByte
    · rename_i someByte
      rw [List.isEmpty_iff] at someByte
      constructor
      · rintro ⟨⟩
        exact ⟨rfl, someByte⟩
      · rintro ⟨rfl, _⟩
        rfl

theorem Role.text_injective {first second : Role} (same : first.text = second.text) :
    first = second := by
  cases first <;> cases second <;> first | rfl | simp [text] at same

namespace Attributes

variable {attributes : Attributes} {protocol user : String} {asked : Role}

/-- The attributes are meant for a protocol, or do not say for which. -/
def Speaks (attributes : Attributes) (protocol : String) : Prop :=
  ∀ stated, attributes.get? "proto" = some stated → stated = protocol

def Names (attributes : Attributes) (user : String) : Prop :=
  attributes.get? "user" = some user ∧ user ≠ ""

/-- The role that is asked for, in whatever case, or else the client's. -/
inductive Plays (attributes : Attributes) : Role → Prop
  | unstated (absent : attributes.get? "role" = none) : Plays attributes .client
  | stated {text : String} {role : Role} (found : attributes.get? "role" = some text)
      (named : Text.lowerAscii text = role.text) : Plays attributes role

inductive Brings (attributes : Attributes) : Option SecretKey → Prop
  | nothing (absent : attributes.get? "key" = none) : Brings attributes none
  | key {text : String} {key : SecretKey} (found : attributes.get? "key" = some text)
      (spelled : key.Spelled text) : Brings attributes (some key)

theorem checkProtocol_cases (attributes : Attributes) (protocol : String) :
    attributes.Speaks protocol ∧ attributes.checkProtocol protocol = .ok () ∨
      ∃ stated, attributes.get? "proto" = some stated ∧ stated ≠ protocol ∧
        attributes.checkProtocol protocol =
          .error (.invalidAttribute "proto" (.otherProtocol protocol stated)) := by
  rw [Speaks, checkProtocol]
  rcases attributes.get? "proto" with _ | stated
  · exact Or.inl ⟨nofun, rfl⟩
  · dsimp only
    by_cases same : stated = protocol
    · rw [if_pos same]
      exact Or.inl ⟨fun other found => (Option.some.inj found) ▸ same, rfl⟩
    · rw [if_neg same]
      exact Or.inr ⟨stated, rfl, same, rfl⟩

theorem Speaks.check (speaks : attributes.Speaks protocol) :
    attributes.checkProtocol protocol = .ok () := by
  rcases checkProtocol_cases attributes protocol with ⟨_, passed⟩ | ⟨stated, found, other, _⟩
  · exact passed
  · exact absurd (speaks stated found) other

theorem required_user_cases (attributes : Attributes) :
    (∃ user, attributes.Names user ∧ attributes.required "user" = .ok user) ∨
      (∀ user, ¬ attributes.Names user) ∧
        attributes.required "user" = .error (.missingAttribute "user") := by
  simp only [Names, required]
  rcases attributes.get? "user" with _ | user
  · exact Or.inr ⟨nofun, rfl⟩
  · dsimp only
    by_cases empty : user = ""
    · subst empty
      refine Or.inr ⟨?_, rfl⟩
      rintro other ⟨⟨⟩, named⟩
      exact named rfl
    · rw [if_neg (by simpa using empty)]
      exact Or.inl ⟨user, ⟨rfl, empty⟩, rfl⟩

theorem Names.required (names : attributes.Names user) :
    attributes.required "user" = .ok user := by
  rcases required_user_cases attributes with ⟨other, others, passed⟩ | ⟨noneNamed, _⟩
  · obtain rfl := Option.some.inj (names.1.symm.trans others.1)
    exact passed
  · exact absurd names (noneNamed user)

theorem role_cases (attributes : Attributes) :
    (∃ role, attributes.Plays role ∧ attributes.role = .ok role) ∨
      ∃ text, attributes.get? "role" = some text ∧
        (∀ role : Role, Text.lowerAscii text ≠ role.text) ∧
        attributes.role =
          .error (.invalidAttribute "role" (.unknownRole (Text.lowerAscii text))) := by
  rcases found : attributes.get? "role" with _ | text
  · exact Or.inl ⟨.client, .unstated found, by rw [role, found]⟩
  · simp only [role, found, Role.parse, Role.ofName?]
    by_cases client : Text.lowerAscii text = "client"
    · rw [if_pos client]
      exact Or.inl ⟨.client, .stated found client, rfl⟩
    · rw [if_neg client]
      by_cases server : Text.lowerAscii text = "server"
      · rw [if_pos server]
        exact Or.inl ⟨.server, .stated found server, rfl⟩
      · rw [if_neg server]
        refine Or.inr ⟨text, rfl, fun role => ?_, rfl⟩
        cases role with
        | client => exact client
        | server => exact server

theorem Plays.unique {other : Role} (plays : attributes.Plays asked)
    (others : attributes.Plays other) : asked = other := by
  cases plays with
  | unstated absent =>
      cases others with
      | unstated _ => rfl
      | stated found _ => cases absent.symm.trans found
  | stated found named =>
      cases others with
      | unstated absent => cases absent.symm.trans found
      | stated again renamed =>
          obtain rfl := Option.some.inj (found.symm.trans again)
          exact Role.text_injective (named.symm.trans renamed)

theorem Plays.role_eq (plays : attributes.Plays asked) : attributes.role = .ok asked := by
  rcases role_cases attributes with ⟨other, others, passed⟩ | ⟨text, found, unknown, _⟩
  · rw [plays.unique others, passed]
  · cases plays with
    | unstated absent => cases absent.symm.trans found
    | stated again named =>
        obtain rfl := Option.some.inj (found.symm.trans again)
        exact absurd named (unknown asked)

end Attributes

end Parley
