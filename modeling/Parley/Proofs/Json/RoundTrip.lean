import Parley.Json.Reader

/-!
Compact JSON text reads back as the value it was written from, as long as the value has no numbers
and does not nest too deeply.
-/

namespace Parley.Json

/-! ## Strings -/

theorem hexUnit_control (code : Nat) (control : code < 32) :
    hexUnit '0' '0' (Nat.digitChar (code / 16)) (Nat.digitChar (code % 16)) = some code := by
  have every : ∀ code < 32,
      hexUnit '0' '0' (Nat.digitChar (code / 16)) (Nat.digitChar (code % 16)) = some code := by
    decide
  exact every code control

theorem readString_printed {char : Char} (quote : char ≠ '"') (backslash : char ≠ '\\')
    (printed : ¬ char.toNat < 32) (rest : List Char) :
    readString (char :: rest) = push char (readString rest) := by
  rw [readString.eq_def]
  split
  · rename_i same
    cases same
  · rename_i same
    exact absurd (List.cons.inj same).1 quote
  · rename_i same
    exact absurd (List.cons.inj same).1 backslash
  · rename_i same
    exact absurd (List.cons.inj same).1 backslash
  · rename_i same
    obtain ⟨rfl, rfl⟩ := List.cons.inj same
    rw [if_neg printed]

theorem readString_escapeChar (char : Char) (rest : List Char) :
    readString (escapeChar char ++ rest) = push char (readString rest) := by
  by_cases quote : char = '"'
  · subst quote
    rfl
  by_cases backslash : char = '\\'
  · subst backslash
    rfl
  by_cases short : char ∈ ['\x08', '\x0c', '\n', '\r', '\t']
  · simp only [List.mem_cons, List.not_mem_nil, or_false] at short
    rcases short with rfl | rfl | rfl | rfl | rfl <;> rfl
  simp only [List.mem_cons, List.not_mem_nil, or_false, not_or] at short
  obtain ⟨backspace, feed, line, back, tab⟩ := short
  rw [escapeChar, if_neg quote, if_neg backslash, if_neg backspace, if_neg feed, if_neg line,
    if_neg back, if_neg tab]
  split
  · rename_i control
    have opens : opensPair char.toNat = false := by
      simp only [opensPair, Bool.and_eq_false_iff, decide_eq_false_iff_not]
      omega
    have closes : closesPair char.toNat = false := by
      simp only [closesPair, Bool.and_eq_false_iff, decide_eq_false_iff_not]
      omega
    simp only [List.cons_append, List.nil_append, readString, hexUnit_control _ control, opens,
      closes, Bool.false_eq_true, if_false, Char.ofNat_toNat]
  · rename_i printed
    exact readString_printed quote backslash printed rest

theorem readString_quoted (text rest : List Char) :
    readString (text.flatMap escapeChar ++ '"' :: rest) = some (text, rest) := by
  induction text with
  | nil => rw [List.flatMap_nil, List.nil_append, readString]
  | cons char text ih =>
      rw [List.flatMap_cons, List.append_assoc, readString_escapeChar, ih, push]

/-! ## Values -/

/-- A value without numbers that nests at most the given number of levels. -/
def Plain : Nat → Json → Prop
  | _, .null | _, .bool _ | _, .string _ => True
  | levels + 1, .list items => ∀ item ∈ items, Plain levels item
  | levels + 1, .object fields => ∀ field ∈ fields, Plain levels field.2
  | _, _ => False

theorem chars_plain {levels : Nat} {value : Json} (plain : Plain levels value) :
    ∃ char text, chars value = char :: text ∧ isSpace char = false ∧ char ≠ ']' := by
  cases value with
  | null => exact ⟨'n', _, rfl, by decide, by decide⟩
  | bool flag => cases flag with
    | true => exact ⟨'t', _, rfl, by decide, by decide⟩
    | false => exact ⟨'f', _, rfl, by decide, by decide⟩
  | integer value => cases levels <;> exact plain.elim
  | decimal numeral => cases levels <;> exact plain.elim
  | string text => exact ⟨'"', _, by rw [chars, quoteChars]; rfl, by decide, by decide⟩
  | list items => exact ⟨'[', _, by rw [chars]; rfl, by decide, by decide⟩
  | object fields => exact ⟨'\x7b', _, by rw [chars]; rfl, by decide, by decide⟩

theorem skipSpace_cons {char : Char} (token : isSpace char = false) (text : List Char) :
    skipSpace (char :: text) = char :: text := by
  rw [skipSpace, List.dropWhile_cons, token]
  rfl

theorem skipSpace_chars {levels : Nat} {value : Json} (plain : Plain levels value)
    (rest : List Char) : skipSpace (chars value ++ rest) = chars value ++ rest := by
  obtain ⟨char, text, same, token, _⟩ := chars_plain plain
  rw [same, List.cons_append, skipSpace_cons token]

theorem readName_append (name : String) (value : Json) (rest : List Char) :
    readName name value (name.toList ++ rest) = some (value, rest) := by
  have starts : name.toList.isPrefixOf (name.toList ++ rest) = true :=
    List.isPrefixOf_iff_prefix.mpr (List.prefix_append _ _)
  rw [readName, if_pos starts, ← String.length_toList, List.drop_left]

theorem readItems_chars {levels : Nat} {items : List Json} (someItem : items ≠ [])
    (plain : ∀ item ∈ items, Plain levels item)
    (reads : ∀ item ∈ items, ∀ rest,
      readValue levels (chars item ++ rest) = some (item, rest))
    (bound : Nat) (enough : items.length ≤ bound) (rest : List Char) :
    readItems (readValue levels) bound (itemChars items ++ ']' :: rest) = some (items, rest) := by
  induction items generalizing bound with
  | nil => exact absurd rfl someItem
  | cons item items ih =>
      obtain ⟨bound, rfl⟩ : ∃ less, bound = less + 1 := ⟨bound - 1, by
        simp only [List.length_cons] at enough
        omega⟩
      have first := reads item List.mem_cons_self
      have begins := plain item List.mem_cons_self
      cases items with
      | nil =>
          rw [itemChars, readItems, skipSpace_chars begins, first]
          simp only [skipSpace_cons (by decide : isSpace ']' = false)]
      | cons second items =>
          rw [itemChars, readItems, List.append_assoc, skipSpace_chars begins, first]
          simp only [List.cons_append, skipSpace_cons (by decide : isSpace ',' = false)]
          rw [ih (by simp) (fun other member => plain other (List.mem_cons_of_mem _ member))
            (fun other member => reads other (List.mem_cons_of_mem _ member)) bound
            (by simpa using enough)]

theorem readFields_chars {levels : Nat} {fields : List (String × Json)} (someField : fields ≠ [])
    (plain : ∀ field ∈ fields, Plain levels field.2)
    (reads : ∀ field ∈ fields, ∀ rest,
      readValue levels (chars field.2 ++ rest) = some (field.2, rest))
    (bound : Nat) (enough : fields.length ≤ bound) (rest : List Char) :
    readFields (readValue levels) bound (fieldChars fields ++ '\x7d' :: rest) =
      some (fields, rest) := by
  induction fields generalizing bound with
  | nil => exact absurd rfl someField
  | cons field fields ih =>
      obtain ⟨bound, rfl⟩ : ∃ less, bound = less + 1 := ⟨bound - 1, by
        simp only [List.length_cons] at enough
        omega⟩
      obtain ⟨name, value⟩ := field
      have first := reads (name, value) List.mem_cons_self
      have begins : Plain levels value := plain (name, value) List.mem_cons_self
      have quote : isSpace '"' = false := by decide
      have colon : isSpace ':' = false := by decide
      have comma : isSpace ',' = false := by decide
      have brace : isSpace '\x7d' = false := by decide
      cases fields with
      | nil =>
          simp only [fieldChars, quoteChars, List.cons_append, List.append_assoc,
            List.nil_append, readFields, skipSpace_cons quote, readString_quoted,
            skipSpace_cons colon, skipSpace_chars begins, first, skipSpace_cons brace,
            String.ofList_toList]
      | cons second fields =>
          have later := ih (by simp) (fun other member => plain other (List.mem_cons_of_mem _ member))
            (fun other member => reads other (List.mem_cons_of_mem _ member)) bound
            (by simpa using enough)
          simp only [fieldChars, quoteChars, List.cons_append, List.append_assoc,
            List.nil_append, readFields, skipSpace_cons quote, readString_quoted,
            skipSpace_cons colon, skipSpace_chars begins, first, skipSpace_cons comma, later,
            String.ofList_toList]

theorem length_itemChars {levels : Nat} {items : List Json}
    (plain : ∀ item ∈ items, Plain levels item) : items.length ≤ (itemChars items).length := by
  induction items with
  | nil => exact Nat.le_refl _
  | cons item items ih =>
      obtain ⟨char, text, same, _, _⟩ := chars_plain (plain item List.mem_cons_self)
      cases items with
      | nil => simp [itemChars, same]
      | cons second items =>
          have later := ih fun other member => plain other (List.mem_cons_of_mem _ member)
          simp only [itemChars, same, List.length_append, List.length_cons] at later ⊢
          omega

theorem length_fieldChars (fields : List (String × Json)) :
    fields.length ≤ (fieldChars fields).length := by
  induction fields with
  | nil => exact Nat.le_refl _
  | cons field fields ih =>
      obtain ⟨name, value⟩ := field
      cases fields with
      | nil => simp [fieldChars, quoteChars]
      | cons second fields =>
          simp only [fieldChars, quoteChars, List.length_append, List.length_cons] at ih ⊢
          omega

theorem fieldChars_cons (name : String) (value : Json) (fields : List (String × Json)) :
    ∃ text, fieldChars ((name, value) :: fields) = '"' :: text := by
  cases fields <;> exact ⟨_, by simp only [fieldChars, quoteChars]; rfl⟩

theorem readValue_scalar (levels : Nat) (value : Json) (plain : Plain 0 value)
    (rest : List Char) : readValue levels (chars value ++ rest) = some (value, rest) := by
  have token {char : Char} {text : List Char} (noList : char ≠ '[') (noObject : char ≠ '\x7b') :
      readValue levels (char :: text) = readScalar (char :: text) := by
    cases levels <;> simp [readValue, noList, noObject]
  cases value with
  | null =>
      rw [chars]
      exact (token (by decide) (by decide)).trans (readName_append "ull" .null rest)
  | bool flag =>
      cases flag with
      | true =>
          rw [chars]
          exact (token (by decide) (by decide)).trans (readName_append "rue" (.bool true) rest)
      | false =>
          rw [chars]
          exact (token (by decide) (by decide)).trans (readName_append "alse" (.bool false) rest)
  | string text =>
      simp only [chars, quoteChars, List.cons_append, List.append_assoc, List.nil_append]
      rw [token (by decide) (by decide), readScalar, readString_quoted]
      simp only [Option.map_some, String.ofList_toList]
  | integer value => exact plain.elim
  | decimal numeral => exact plain.elim
  | list items => exact plain.elim
  | object fields => exact plain.elim

theorem readValue_list (levels : Nat) {char : Char} (token : isSpace char = false)
    (opening : char ≠ ']') (text : List Char) :
    readValue (levels + 1) ('[' :: char :: text) =
      (readItems (readValue levels) ((char :: text).length + 1) (char :: text)).map
        fun (items, rest) => (.list items, rest) := by
  rw [readValue, skipSpace_cons token]
  split
  · rename_i same
    exact absurd (List.cons.inj same).1 opening
  · rfl

theorem readValue_object (levels : Nat) (text : List Char) :
    readValue (levels + 1) ('\x7b' :: '"' :: text) =
      (readFields (readValue levels) (('"' :: text).length + 1) ('"' :: text)).map
        fun (fields, rest) => (.object fields, rest) := by
  rw [readValue, skipSpace_cons (by decide)]
  split
  · rename_i same
    exact absurd (List.cons.inj same).1 (by decide)
  · rfl

theorem readValue_chars {levels : Nat} {value : Json} (plain : Plain levels value)
    (rest : List Char) : readValue levels (chars value ++ rest) = some (value, rest) := by
  induction levels generalizing value rest with
  | zero => exact readValue_scalar 0 value plain rest
  | succ levels ih =>
      cases value with
      | null => exact readValue_scalar _ .null trivial rest
      | bool flag => exact readValue_scalar _ (.bool flag) trivial rest
      | string text => exact readValue_scalar _ (.string text) trivial rest
      | integer value => exact plain.elim
      | decimal numeral => exact plain.elim
      | list items =>
          have inside : ∀ other ∈ items, Plain levels other := plain
          simp only [chars, List.cons_append, List.append_assoc, List.nil_append]
          cases items with
          | nil =>
              rw [itemChars, List.nil_append, readValue, skipSpace_cons (by decide)]
              rfl
          | cons item items =>
              obtain ⟨char, text, same, token, opening⟩ := chars_plain (inside item List.mem_cons_self)
              obtain ⟨more, begins⟩ : ∃ more, itemChars (item :: items) = char :: more := by
                cases items with
                | nil => exact ⟨text, same⟩
                | cons second items => exact ⟨_, by rw [itemChars, same, List.cons_append]⟩
              have long := length_itemChars inside
              have all := readItems_chars (by simp) inside
                (fun other member => ih (inside other member))
                ((itemChars (item :: items) ++ ']' :: rest).length + 1)
                (by
                  simp only [List.length_append, List.length_cons] at long ⊢
                  omega) rest
              rw [begins, List.cons_append] at all ⊢
              rw [readValue_list levels token opening, all]
              rfl
      | object fields =>
          have inside : ∀ other ∈ fields, Plain levels other.2 := plain
          simp only [chars, List.cons_append, List.append_assoc, List.nil_append]
          cases fields with
          | nil =>
              rw [fieldChars, List.nil_append, readValue, skipSpace_cons (by decide)]
              rfl
          | cons field fields =>
              obtain ⟨more, begins⟩ := fieldChars_cons field.1 field.2 fields
              have long := length_fieldChars (field :: fields)
              have all := readFields_chars (by simp) inside
                (fun other member => ih (inside other member))
                ((fieldChars (field :: fields) ++ '\x7d' :: rest).length + 1)
                (by
                  simp only [List.length_append, List.length_cons] at long ⊢
                  omega) rest
              rw [begins, List.cons_append] at all ⊢
              rw [readValue_object, all]
              rfl

theorem readChars_chars {value : Json} (plain : Plain deepest value) :
    readChars (chars value) = some value := by
  have whole := readValue_chars plain []
  have begins := skipSpace_chars plain []
  rw [List.append_nil] at whole begins
  rw [readChars, begins, whole]
  rfl

end Parley.Json
