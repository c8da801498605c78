import Parley.Json.Reader

/-!
How long the texts in JSON values are. What is read out of a text has no more characters than the
text, and no reader leaves more than it was given.
-/

namespace Parley.Json

/-- No text in the value has more characters than that. -/
inductive Within (most : Nat) : Json → Prop
  | null : Within most .null
  | bool (value : Bool) : Within most (.bool value)
  | integer (value : Int) : Within most (.integer value)
  | decimal (numeral : String) : Within most (.decimal numeral)
  | string {text : String} (short : text.toList.length ≤ most) : Within most (.string text)
  | list {items : List Json} (all : ∀ item ∈ items, Within most item) : Within most (.list items)
  | object {fields : List (String × Json)} (all : ∀ field ∈ fields, Within most field.2) :
      Within most (.object fields)

theorem Within.mono {few many : Nat} {value : Json} (within : value.Within few)
    (fewer : few ≤ many) : value.Within many := by
  induction within with
  | null => exact .null
  | bool value => exact .bool value
  | integer value => exact .integer value
  | decimal numeral => exact .decimal numeral
  | string short => exact .string (Nat.le_trans short fewer)
  | list _ ih => exact .list ih
  | object _ ih => exact .object ih

def Shortens {α : Type} (read : List Char → Option (α × List Char)) : Prop :=
  ∀ {text value rest}, read text = some (value, rest) → rest.length ≤ text.length

def Bounded (read : List Char → Option (Json × List Char)) : Prop :=
  ∀ {text value rest}, read text = some (value, rest) →
    value.Within text.length ∧ rest.length ≤ text.length

theorem length_skipSpace (text : List Char) : (skipSpace text).length ≤ text.length :=
  (List.dropWhile_sublist _).length_le

/-! ## Strings -/

theorem length_push {char : Char} {reading : Option (List Char × List Char)}
    {content rest : List Char} {bound : Nat} (found : push char reading = some (content, rest))
    (shorter : ∀ {later}, reading = some (later, rest) → later.length + rest.length < bound) :
    content.length + rest.length < bound + 1 := by
  rcases reading with _ | ⟨later, left⟩
  · cases found
  · cases found
    have tail := shorter rfl
    simp only [List.length_cons]
    omega

theorem length_readString {text content rest : List Char}
    (found : readString text = some (content, rest)) :
    content.length + rest.length < text.length := by
  fun_induction readString text generalizing content rest with
  | case2 left =>
      cases found
      simp
  | case5 a b c d unit read opens e f g h left low follows closes ih =>
      have grown := length_push found ih
      simp only [List.length_cons]
      omega
  | case9 a b c d left unit read single stays ih =>
      have grown := length_push found ih
      simp only [List.length_cons]
      omega
  | case11 letter left plain char known ih =>
      have grown := length_push found ih
      simp only [List.length_cons]
      omega
  | case13 char left _ _ _ printed ih =>
      have grown := length_push found ih
      simp only [List.length_cons]
      omega
  | _ => cases found

/-! ## Numerals and names -/

theorem shortens_readDigits : Shortens readDigits := by
  intro text digits rest found
  rw [readDigits] at found
  split at found
  · cases found
  · cases found
    exact (List.dropWhile_sublist _).length_le

theorem shortens_readWhole : Shortens readWhole := by
  intro text digits rest found
  rw [readWhole.eq_def] at found
  split at found
  · cases found
    exact Nat.le_succ _
  · exact shortens_readDigits found

theorem shortens_readFraction : Shortens readFraction := by
  intro text digits rest found
  rw [readFraction.eq_def] at found
  split at found
  · exact Nat.le_succ_of_le (shortens_readDigits found)
  · cases found
    exact Nat.le_refl _

theorem shortens_readSigned : Shortens readSigned := by
  intro text value rest found
  rw [readSigned.eq_def] at found
  split at found
  all_goals
    obtain ⟨⟨digits, left⟩, read, same⟩ := Option.map_eq_some_iff.mp found
    cases same
    have shorter := shortens_readDigits read
  · exact Nat.le_succ_of_le shorter
  · exact Nat.le_succ_of_le shorter
  · exact shorter

theorem shortens_readExponent : Shortens readExponent := by
  intro text value rest found
  rw [readExponent.eq_def] at found
  split at found
  · obtain ⟨⟨value, left⟩, read, same⟩ := Option.map_eq_some_iff.mp found
    cases same
    exact Nat.le_succ_of_le (shortens_readSigned read)
  · obtain ⟨⟨value, left⟩, read, same⟩ := Option.map_eq_some_iff.mp found
    cases same
    exact Nat.le_succ_of_le (shortens_readSigned read)
  · cases found
    exact Nat.le_refl _

theorem bounded_readMagnitude (negative : Bool) : Bounded (readMagnitude negative) := by
  intro text value rest found
  simp only [readMagnitude, Option.bind_eq_bind, Option.bind_eq_some_iff] at found
  obtain ⟨⟨whole, left⟩, first, ⟨fraction, later⟩, second, ⟨exponent, last⟩, third, found⟩ := found
  have shorter : last.length ≤ text.length :=
    Nat.le_trans (shortens_readExponent third)
      (Nat.le_trans (shortens_readFraction second) (shortens_readWhole first))
  dsimp only at found
  -- Whether the numeral is in range is told apart by its sign, so there are two tests of either.
  split at found
  · split at found
    · cases found
      exact ⟨.integer _, shorter⟩
    · split at found
      · cases found
      · cases found
        exact ⟨.decimal _, shorter⟩
  · split at found
    · cases found
      exact ⟨.integer _, shorter⟩
    · split at found
      · cases found
      · cases found
        exact ⟨.decimal _, shorter⟩

theorem bounded_readNumber : Bounded readNumber := by
  intro text value rest found
  rw [readNumber.eq_def] at found
  split at found
  · obtain ⟨within, shorter⟩ := bounded_readMagnitude true found
    exact ⟨within.mono (Nat.le_succ _), Nat.le_succ_of_le shorter⟩
  · exact bounded_readMagnitude false found

theorem readName_eq_some {name : String} {value read : Json} {text rest : List Char}
    (found : readName name value text = some (read, rest)) :
    read = value ∧ rest.length ≤ text.length := by
  rw [readName] at found
  split at found
  · cases found
    exact ⟨rfl, by simp⟩
  · cases found

theorem bounded_readScalar : Bounded readScalar := by
  intro text value rest found
  rw [readScalar.eq_def] at found
  split at found
  · obtain ⟨rfl, shorter⟩ := readName_eq_some found
    exact ⟨.null, Nat.le_succ_of_le shorter⟩
  · obtain ⟨rfl, shorter⟩ := readName_eq_some found
    exact ⟨.bool true, Nat.le_succ_of_le shorter⟩
  · obtain ⟨rfl, shorter⟩ := readName_eq_some found
    exact ⟨.bool false, Nat.le_succ_of_le shorter⟩
  · obtain ⟨⟨content, left⟩, read, same⟩ := Option.map_eq_some_iff.mp found
    cases same
    have shorter := length_readString read
    refine ⟨.string ?_, ?_⟩
    · rw [String.toList_ofList, List.length_cons]
      omega
    · rw [List.length_cons]
      omega
  · exact bounded_readNumber found

/-! ## Lists and objects -/

theorem bounded_readItems {readItem : List Char → Option (Json × List Char)}
    (bounded : Bounded readItem) (bound : Nat) {text rest : List Char} {items : List Json}
    (found : readItems readItem bound text = some (items, rest)) :
    (∀ item ∈ items, item.Within text.length) ∧ rest.length ≤ text.length := by
  induction bound generalizing text items rest with
  | zero => cases found
  | succ bound ih =>
      have start := length_skipSpace text
      rw [readItems] at found
      split at found
      · cases found
      · rename_i item left read
        obtain ⟨within, shorter⟩ := bounded read
        have first := within.mono start
        have between := length_skipSpace left
        split at found
        · rename_i later next
          rw [next, List.length_cons] at between
          split at found
          · cases found
          · rename_i more last tail
            cases found
            obtain ⟨others, less⟩ := ih tail
            refine ⟨fun other member => ?_, by omega⟩
            rcases List.mem_cons.mp member with rfl | listed
            · exact first
            · exact (others other listed).mono (by omega)
        · rename_i last closes
          cases found
          rw [closes, List.length_cons] at between
          refine ⟨fun other member => ?_, by omega⟩
          obtain rfl := List.mem_singleton.mp member
          exact first
        · cases found

theorem bounded_readFields {readItem : List Char → Option (Json × List Char)}
    (bounded : Bounded readItem) (bound : Nat) {text rest : List Char}
    {fields : List (String × Json)}
    (found : readFields readItem bound text = some (fields, rest)) :
    (∀ field ∈ fields, field.2.Within text.length) ∧ rest.length ≤ text.length := by
  induction bound generalizing text fields rest with
  | zero => cases found
  | succ bound ih =>
      have start := length_skipSpace text
      rw [readFields] at found
      split at found
      · rename_i inner opens
        rw [opens, List.length_cons] at start
        split at found
        · cases found
        · rename_i name left named
          have nameLeft := length_readString named
          have gap := length_skipSpace left
          split at found
          · rename_i after colon
            rw [colon, List.length_cons] at gap
            have before := length_skipSpace after
            split at found
            · cases found
            · rename_i value behind read
              obtain ⟨within, shorter⟩ := bounded read
              have first : value.Within text.length := within.mono (by omega)
              have between := length_skipSpace behind
              split at found
              · rename_i later next
                rw [next, List.length_cons] at between
                split at found
                · cases found
                · rename_i more last tail
                  cases found
                  obtain ⟨others, less⟩ := ih tail
                  refine ⟨fun other member => ?_, by omega⟩
                  rcases List.mem_cons.mp member with rfl | listed
                  · exact first
                  · exact (others other listed).mono (by omega)
              · rename_i last closes
                cases found
                rw [closes, List.length_cons] at between
                refine ⟨fun other member => ?_, by omega⟩
                obtain rfl := List.mem_singleton.mp member
                exact first
              · cases found
          · cases found
      · cases found

theorem bounded_inside {most : List Char} {opening : Char} {value : Json} {rest : List Char}
    (inside : value.Within most.length ∧ rest.length ≤ most.length) :
    value.Within (opening :: most).length ∧ rest.length ≤ (opening :: most).length :=
  ⟨inside.1.mono (Nat.le_succ _), Nat.le_succ_of_le inside.2⟩

theorem bounded_readValue (levels : Nat) : Bounded (readValue levels) := by
  induction levels with
  | zero =>
      intro text value rest found
      rw [readValue.eq_def] at found
      split at found
      · cases found
      · cases found
      · rename_i noneLeft
        cases noneLeft
      · rename_i noneLeft
        cases noneLeft
      · exact bounded_readScalar found
  | succ levels ih =>
      intro text value rest found
      rw [readValue.eq_def] at found
      split at found
      · rename_i someLeft
        cases someLeft
      · rename_i someLeft
        cases someLeft
      · rename_i inner same
        cases same
        have start := length_skipSpace inner
        refine bounded_inside ?_
        split at found
        · rename_i left closes
          cases found
          rw [closes, List.length_cons] at start
          exact ⟨.list (by simp), by omega⟩
        · obtain ⟨⟨items, left⟩, read, made⟩ := Option.map_eq_some_iff.mp found
          cases made
          obtain ⟨all, shorter⟩ := bounded_readItems ih _ read
          exact ⟨.list fun item member => (all item member).mono start, by omega⟩
      · rename_i inner same
        cases same
        have start := length_skipSpace inner
        refine bounded_inside ?_
        split at found
        · rename_i left closes
          cases found
          rw [closes, List.length_cons] at start
          exact ⟨.object (by simp), by omega⟩
        · obtain ⟨⟨fields, left⟩, read, made⟩ := Option.map_eq_some_iff.mp found
          cases made
          obtain ⟨all, shorter⟩ := bounded_readFields ih _ read
          exact ⟨.object fun field member => (all field member).mono start, by omega⟩
      · exact bounded_readScalar found

theorem within_readChars {text : List Char} {value : Json} (found : readChars text = some value) :
    value.Within text.length := by
  rw [readChars] at found
  split at found
  · cases found
  · rename_i value left read
    split at found
    · cases found
      exact (bounded_readValue deepest read).1.mono (length_skipSpace text)
    · cases found

end Parley.Json
