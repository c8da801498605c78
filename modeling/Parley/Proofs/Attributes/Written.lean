import Parley.Attributes

/-!
Written attributes. A text of items in any of their forms, between blanks, is read as these items,
and the last value of a name stays. What cannot be read is a quoted value that does not end, or a
value without a name.
-/

namespace Parley

namespace Dictionary

variable {α : Type}

def lastValue (entries : List (String × α)) (key : String) : Option α :=
  ((entries.filter fun entry => entry.1 = key).map (·.2)).getLast?

def insertAll (dictionary : Dictionary α) (entries : List (String × α)) : Dictionary α :=
  entries.foldl (fun dictionary entry => dictionary.insert entry.1 entry.2) dictionary

theorem get?_insertAll (dictionary : Dictionary α) (entries : List (String × α)) (key : String) :
    (dictionary.insertAll entries).get? key = (lastValue entries key).or (dictionary.get? key) := by
  induction entries generalizing dictionary with
  | nil => rfl
  | cons entry rest ih =>
      have later : (dictionary.insertAll (entry :: rest)).get? key =
          (lastValue rest key).or ((dictionary.insert entry.1 entry.2).get? key) := ih _
      rw [later, get?_insert, lastValue, lastValue, List.filter_cons]
      by_cases same : key = entry.1
      · subst same
        simp only [if_true, decide_true, List.map_cons, List.getLast?_cons]
        cases ((rest.filter fun other => other.1 = entry.1).map (·.2)).getLast? <;> rfl
      · rw [if_neg same, if_neg (by simpa using Ne.symm same)]

theorem get?_ofList (entries : List (String × α)) (key : String) :
    (ofList entries).get? key = lastValue entries key := by
  have inserted := get?_insertAll (empty : Dictionary α) entries key
  have nothing : (empty : Dictionary α).get? key = none := rfl
  rw [nothing, Option.or_none] at inserted
  exact inserted

theorem mem_insertAll {dictionary : Dictionary α} {entries : List (String × α)}
    {entry : String × α} (member : entry ∈ (dictionary.insertAll entries).entries) :
    entry ∈ entries ∨ entry ∈ dictionary.entries := by
  induction entries generalizing dictionary with
  | nil => exact Or.inr member
  | cons first rest ih =>
      rcases ih member with later | earlier
      · exact Or.inl (List.mem_cons_of_mem _ later)
      · rcases mem_insertEntry earlier with rfl | old
        · exact Or.inl List.mem_cons_self
        · exact Or.inr old

theorem insertEntry_last {key : String} (value : α) {entries : List (String × α)}
    (below : ∀ entry ∈ entries, entry.1 < key) :
    insertEntry key value entries = entries ++ [(key, value)] := by
  induction entries with
  | nil => rfl
  | cons first rest ih =>
      have less := below first List.mem_cons_self
      have later := ih fun entry member => below entry (List.mem_cons_of_mem _ member)
      rw [insertEntry, if_neg (String.lt_asymm less), if_neg (Ne.symm (Std.ne_of_lt less)), later,
        List.cons_append]

theorem entries_insertAll {dictionary : Dictionary α} {entries : List (String × α)}
    (ascending : (dictionary.entries ++ entries).Pairwise fun one other => one.1 < other.1) :
    (dictionary.insertAll entries).entries = dictionary.entries ++ entries := by
  induction entries generalizing dictionary with
  | nil => exact (List.append_nil _).symm
  | cons first rest ih =>
      have below : ∀ entry ∈ dictionary.entries, entry.1 < first.1 := fun entry member =>
        (List.pairwise_append.mp ascending).2.2 entry member first List.mem_cons_self
      have inserted : (dictionary.insert first.1 first.2).entries = dictionary.entries ++ [first] :=
        insertEntry_last first.2 below
      have joined : dictionary.entries ++ first :: rest =
          (dictionary.insert first.1 first.2).entries ++ rest := by
        rw [inserted, List.append_assoc, List.singleton_append]
      rw [joined] at ascending ⊢
      exact ih ascending

theorem ofList_entries (dictionary : Dictionary α) : ofList dictionary.entries = dictionary := by
  have entries : (empty.insertAll dictionary.entries).entries =
      empty.entries ++ dictionary.entries := entries_insertAll dictionary.ascending
  change (ofList dictionary.entries).entries = dictionary.entries at entries
  obtain ⟨others, ascending⟩ := dictionary
  generalize made : ofList others = result at entries ⊢
  obtain ⟨_, _⟩ := result
  subst entries
  rfl

end Dictionary

namespace Attributes

/-! ## Forms of items -/

def Blanks (text : List Char) : Prop := ∀ char ∈ text, Text.isBlank char = true

def NameChars (text : List Char) : Prop :=
  ∀ char ∈ text, char ≠ '=' ∧ Text.isBlank char = false

def Nameable (name : String) : Prop := name ≠ "" ∧ NameChars name.toList

/-- A text that is over, or goes on with a blank. -/
def Breaks (text : List Char) : Prop := ∀ char, text.head? = some char → Text.isBlank char = true

def Begins (text : List Char) : Prop :=
  ∃ first rest, text = first :: rest ∧ Text.isBlank first = false

instance (text : List Char) : Decidable (Blanks text) :=
  List.decidableBAll (fun char => Text.isBlank char = true) text

instance (text : List Char) : Decidable (NameChars text) :=
  List.decidableBAll (fun char => char ≠ '=' ∧ Text.isBlank char = false) text

instance (name : String) : Decidable (Nameable name) := instDecidableAnd

def doubled (value : List Char) : List Char :=
  value.flatMap fun char => if char = '\'' then [char, char] else [char]

inductive Form where
  | bare
  | plain
  | quoted
  deriving DecidableEq, Repr

def Form.text (name value : String) : Form → List Char
  | .bare => name.toList
  | .plain => name.toList ++ '=' :: value.toList
  | .quoted => name.toList ++ '=' :: '\'' :: (doubled value.toList ++ ['\''])

def Form.Allows (value : String) : Form → Prop
  | .bare => value = ""
  | .plain => (∀ char ∈ value.toList, Text.isBlank char = false) ∧ value.toList.head? ≠ some '\''
  | .quoted => True

instance (form : Form) (value : String) : Decidable (form.Allows value) :=
  match form with
  | .bare => inferInstanceAs (Decidable (value = ""))
  | .plain =>
    have : Decidable (∀ char ∈ value.toList, Text.isBlank char = false) :=
      List.decidableBAll _ value.toList
    instDecidableAnd
  | .quoted => inferInstanceAs (Decidable True)

/-- Where a form ends: a quoted value at its closing quote, and the others at a blank. -/
def Form.Ends (rest : List Char) : Form → Prop
  | .quoted => rest.head? ≠ some '\''
  | _ => Breaks rest

/-- A text that lists items, each in one of its forms, between blanks. -/
inductive Lists : List (String × String) → List Char → Prop
  | nothing {blanks : List Char} : Blanks blanks → Lists [] blanks
  | item {blanks rest : List Char} {name value : String} {items : List (String × String)}
      (form : Form) : Blanks blanks → Nameable name → form.Allows value → Breaks rest →
      Lists items rest →
      Lists ((name, value) :: items) (blanks ++ (form.text name value ++ rest))

/-- What cannot be read: a quoted value without an end, or any other value without a name. -/
inductive Unreadable : List Char → Fault → Prop
  | unterminated {name : String} {value : List Char} : NameChars name.toList →
      Unreadable (name.toList ++ '=' :: '\'' :: doubled value)
        (.invalidAttribute name .unterminatedQuote)
  | unnamed {rest : List Char} : (∀ value, rest ≠ '\'' :: doubled value) →
      Unreadable ('=' :: rest) (.invalidAttribute "" .emptyName)

/-- The items that a text starts with, and what cannot be read behind them, if anything. -/
inductive Reads : List (String × String) → Option Fault → List Char → Prop
  | done {blanks : List Char} : Blanks blanks → Reads [] none blanks
  | fails {blanks rest : List Char} {fault : Fault} : Blanks blanks → Unreadable rest fault →
      Reads [] (some fault) (blanks ++ rest)
  | item {blanks rest : List Char} {name value : String} {items : List (String × String)}
      {outcome : Option Fault} (form : Form) : Blanks blanks → Nameable name → form.Allows value →
      form.Ends rest → Reads items outcome rest →
      Reads ((name, value) :: items) outcome (blanks ++ (form.text name value ++ rest))

def quoted (attributes : Attributes) : String :=
  String.ofList ([' '].intercalate
    (attributes.entries.map fun item => Form.quoted.text item.1 item.2))

/-! ## Quoted values -/

theorem doubled_quote (value : List Char) :
    doubled ('\'' :: value) = '\'' :: '\'' :: doubled value := rfl

theorem doubled_cons {char : Char} (other : char ≠ '\'') (value : List Char) :
    doubled (char :: value) = char :: doubled value := by
  rw [doubled, List.flatMap_cons, if_neg other]
  rfl

theorem readQuoted_close {rest : List Char} (ends : rest.head? ≠ some '\'') :
    readQuoted ('\'' :: rest) = some ([], rest) := by
  rcases rest with - | ⟨char, rest⟩
  · rfl
  · have other : char ≠ '\'' := fun same => ends (congrArg some same)
    rw [readQuoted]
    intro later same
    exact other (List.cons.inj same).1

theorem readQuoted_cons {char : Char} (other : char ≠ '\'') (rest : List Char) :
    readQuoted (char :: rest) = push char (readQuoted rest) := by
  rw [readQuoted]
  · intro later same
    exact absurd same other
  · exact other

theorem readQuoted_doubled (value : List Char) {rest : List Char}
    (ends : rest.head? ≠ some '\'') :
    readQuoted (doubled value ++ '\'' :: rest) = some (value, rest) := by
  induction value with
  | nil => exact readQuoted_close ends
  | cons char value ih =>
      by_cases quote : char = '\''
      · subst quote
        rw [doubled_quote, List.cons_append, List.cons_append, readQuoted, ih, push]
      · rw [doubled_cons quote, List.cons_append, readQuoted_cons quote, ih, push]

theorem readQuoted_unterminated (value : List Char) : readQuoted (doubled value) = none := by
  induction value with
  | nil => rfl
  | cons char value ih =>
      by_cases quote : char = '\''
      · subst quote
        rw [doubled_quote, readQuoted, ih, push]
      · rw [doubled_cons quote, readQuoted_cons quote, ih, push]

theorem quoted_or_unterminated (text : List Char) :
    (∃ value rest, text = doubled value ++ '\'' :: rest ∧ rest.head? ≠ some '\'') ∨
      ∃ value, text = doubled value := by
  induction text using readQuoted.induct with
  | case1 rest ih =>
      rcases ih with ⟨value, later, rfl, ends⟩ | ⟨value, rfl⟩
      · exact Or.inl ⟨'\'' :: value, later, rfl, ends⟩
      · exact Or.inr ⟨'\'' :: value, rfl⟩
  | case2 rest single =>
      refine Or.inl ⟨[], rest, rfl, ?_⟩
      intro quote
      rcases rest with - | ⟨char, rest⟩
      · exact nomatch quote
      · exact single rest (congrArg (· :: rest) (Option.some.inj quote))
  | case3 char rest _ other ih =>
      rcases ih with ⟨value, later, rfl, ends⟩ | ⟨value, rfl⟩
      · refine Or.inl ⟨char :: value, later, ?_, ends⟩
        rw [doubled_cons other, List.cons_append]
      · exact Or.inr ⟨char :: value, (doubled_cons other value).symm⟩
  | case4 => exact Or.inr ⟨[], rfl⟩

/-! ## Single items -/

theorem isNameChar_iff (char : Char) :
    isNameChar char = true ↔ char ≠ '=' ∧ Text.isBlank char = false := by
  rw [isNameChar, Bool.and_eq_true, bne_iff_ne, Bool.not_eq_true']

theorem isBareChar_iff (char : Char) : isBareChar char = true ↔ Text.isBlank char = false :=
  iff_of_eq (Bool.not_eq_true' _)

theorem exists_cut (test : Char → Bool) (text : List Char) :
    ∃ part rest, text = part ++ rest ∧ (∀ char ∈ part, test char = true) ∧
      ∀ char, rest.head? = some char → test char = false := by
  refine ⟨text.takeWhile test, text.dropWhile test, List.takeWhile_append_dropWhile.symm,
    List.all_eq_true.mp List.all_takeWhile, ?_⟩
  intro char found
  have fails := List.head?_dropWhile_not test text
  rwa [found] at fails

theorem cut_append {test : Char → Bool} {part rest : List Char}
    (passes : ∀ char ∈ part, test char = true)
    (ends : ∀ char, rest.head? = some char → test char = false) :
    (part ++ rest).takeWhile test = part ∧ (part ++ rest).dropWhile test = rest := by
  rw [List.takeWhile_append_of_pos passes, List.dropWhile_append_of_pos passes]
  rcases rest with - | ⟨char, rest⟩
  · exact ⟨List.append_nil part, rfl⟩
  · have fails : ¬ test char = true := Bool.eq_false_iff.mp (ends char rfl)
    rw [List.takeWhile_cons_of_neg fails, List.dropWhile_cons_of_neg fails]
    exact ⟨List.append_nil part, rfl⟩

theorem breaks_nil : Breaks [] := fun _ found => nomatch found

theorem breaks_cons {char : Char} (blank : Text.isBlank char = true) (rest : List Char) :
    Breaks (char :: rest) := by
  intro first found
  cases Option.some.inj found
  exact blank

theorem readItem_bare {name : String} {rest : List Char} (nameable : NameChars name.toList)
    (ends : Breaks rest) :
    readItem (name.toList ++ rest) = .ok ((name, ""), rest) := by
  have stops : ∀ char, rest.head? = some char → isNameChar char = false := by
    intro char first
    rw [isNameChar, ends char first, Bool.not_true, Bool.and_false]
  obtain ⟨taken, left⟩ :=
    cut_append (fun char member => (isNameChar_iff char).mpr (nameable char member)) stops
  rw [readItem, taken, left, String.ofList_toList]
  split
  · rename_i later
    have blank : Text.isBlank '=' = true := ends '=' rfl
    exact nomatch blank
  · rfl

theorem cut_name {name : String} (value : List Char) (nameable : NameChars name.toList) :
    (name.toList ++ '=' :: value).takeWhile isNameChar = name.toList ∧
      (name.toList ++ '=' :: value).dropWhile isNameChar = '=' :: value := by
  refine cut_append (fun char member => (isNameChar_iff char).mpr (nameable char member)) ?_
  intro char first
  cases Option.some.inj first
  rfl

theorem readItem_unterminated {name : String} {text : List Char} (nameable : NameChars name.toList)
    (unterminated : readValue text = none) :
    readItem (name.toList ++ '=' :: text) = .error (.invalidAttribute name .unterminatedQuote) := by
  obtain ⟨taken, left⟩ := cut_name text nameable
  simp only [readItem, taken, left, String.ofList_toList, unterminated]

theorem readItem_value {name : String} {text value rest : List Char}
    (nameable : NameChars name.toList) (read : readValue text = some (value, rest)) :
    readItem (name.toList ++ '=' :: text) =
      if name.isEmpty then .error (.invalidAttribute "" .emptyName)
      else .ok ((name, String.ofList value), rest) := by
  obtain ⟨taken, left⟩ := cut_name text nameable
  simp only [readItem, taken, left, String.ofList_toList, read]

theorem readValue_plain {text : List Char} (unquoted : text.head? ≠ some '\'') :
    readValue text = some (text.takeWhile isBareChar, text.dropWhile isBareChar) := by
  rw [readValue]
  intro rest same
  exact unquoted (same ▸ rfl)

theorem head?_append_ne {value rest : List Char} (first : value.head? ≠ some '\'')
    (ends : Breaks rest) :
    (value ++ rest).head? ≠ some '\'' := by
  rcases value with - | ⟨char, value⟩
  · intro quote
    have blank : Text.isBlank '\'' = true := ends _ quote
    exact nomatch blank
  · exact first

theorem readItem_form {form : Form} {name value : String} {rest : List Char}
    (nameable : Nameable name) (allowed : form.Allows value) (ends : form.Ends rest) :
    readItem (form.text name value ++ rest) = .ok ((name, value), rest) := by
  obtain ⟨someName, nameable⟩ := nameable
  have named : ¬ name.isEmpty = true := fun noneName => someName (String.isEmpty_iff.mp noneName)
  cases form with
  | bare =>
      cases allowed
      exact readItem_bare nameable ends
  | plain =>
      obtain ⟨bare, first⟩ := allowed
      have stops : ∀ char, rest.head? = some char → isBareChar char = false := by
        intro char found
        rw [isBareChar, ends char found, Bool.not_true]
      obtain ⟨taken, left⟩ :=
        cut_append (fun char member => (isBareChar_iff char).mpr (bare char member)) stops
      have read : readValue (value.toList ++ rest) = some (value.toList, rest) := by
        rw [readValue_plain (head?_append_ne first ends), taken, left]
      rw [Form.text, List.append_assoc, List.cons_append, readItem_value nameable read,
        if_neg named, String.ofList_toList]
  | quoted =>
      have read : readValue ('\'' :: (doubled value.toList ++ '\'' :: rest)) =
          some (value.toList, rest) := readQuoted_doubled value.toList ends
      have whole : Form.quoted.text name value ++ rest =
          name.toList ++ '=' :: '\'' :: (doubled value.toList ++ '\'' :: rest) := by
        simp only [Form.text, List.append_assoc, List.cons_append, List.nil_append]
      rw [whole, readItem_value nameable read, if_neg named, String.ofList_toList]

theorem readItem_unreadable {text : List Char} {fault : Fault}
    (unreadable : Unreadable text fault) : readItem text = .error fault := by
  cases unreadable with
  | @unterminated name value nameable =>
      have unterminated : readValue ('\'' :: doubled value) = none := readQuoted_unterminated value
      exact readItem_unterminated nameable unterminated
  | @unnamed rest ended =>
      have read : ∃ value later, readValue rest = some (value, later) := by
        by_cases quote : rest.head? = some '\''
        · obtain ⟨rest, rfl⟩ := List.head?_eq_some_iff.mp quote
          rcases quoted_or_unterminated rest with ⟨value, later, rfl, ends⟩ | ⟨value, rfl⟩
          · exact ⟨value, later, readQuoted_doubled value ends⟩
          · exact absurd rfl (ended value)
        · exact ⟨_, _, readValue_plain quote⟩
      obtain ⟨value, later, read⟩ := read
      have nameless : NameChars "".toList := fun char member => nomatch member
      have unnamed := readItem_value nameless read
      rwa [String.toList_empty, List.nil_append, if_pos (String.isEmpty_iff.mpr rfl)] at unnamed

theorem exists_value (text : List Char) :
    (∃ value rest, text = '\'' :: (doubled value ++ '\'' :: rest) ∧ rest.head? ≠ some '\'') ∨
      (∃ value, text = '\'' :: doubled value) ∨
      ∃ value rest, text = value ++ rest ∧ (∀ char ∈ value, Text.isBlank char = false) ∧
        value.head? ≠ some '\'' ∧ Breaks rest := by
  by_cases quote : text.head? = some '\''
  · obtain ⟨text, rfl⟩ := List.head?_eq_some_iff.mp quote
    rcases quoted_or_unterminated text with ⟨value, rest, rfl, ends⟩ | ⟨value, rfl⟩
    · exact Or.inl ⟨value, rest, rfl, ends⟩
    · exact Or.inr (Or.inl ⟨value, rfl⟩)
  · obtain ⟨value, rest, rfl, bare, stops⟩ := exists_cut isBareChar text
    refine Or.inr (Or.inr ⟨value, rest, rfl, ?_, ?_, ?_⟩)
    · exact fun char member => (isBareChar_iff char).mp (bare char member)
    · rcases value with - | ⟨char, value⟩
      · exact nofun
      · exact quote
    · intro char found
      have stopped := stops char found
      rwa [isBareChar, Bool.not_eq_false'] at stopped

def BeginsItem (text : List Char) : Prop :=
  ∃ (form : Form) (name value : String) (rest : List Char), Nameable name ∧ form.Allows value ∧
    form.Ends rest ∧ text = form.text name value ++ rest

theorem pair_or_unreadable {name : String} (nameable : NameChars name.toList) (text : List Char) :
    BeginsItem (name.toList ++ '=' :: text) ∨
      ∃ fault, Unreadable (name.toList ++ '=' :: text) fault := by
  rcases exists_value text with ⟨value, rest, rfl, ends⟩ | ⟨value, rfl⟩ |
    ⟨value, rest, rfl, bare, unquoted, ends⟩
  · by_cases nameless : name = ""
    · subst nameless
      refine Or.inr ⟨_, Unreadable.unnamed ?_⟩
      intro other same
      have read := readQuoted_doubled value ends
      rw [(List.cons.inj same).2, readQuoted_unterminated] at read
      exact nomatch read
    · refine Or.inl ⟨.quoted, name, String.ofList value, rest, ⟨nameless, nameable⟩, trivial,
        ends, ?_⟩
      simp only [Form.text, String.toList_ofList, List.append_assoc, List.cons_append,
        List.nil_append]
  · exact Or.inr ⟨_, Unreadable.unterminated nameable⟩
  · by_cases nameless : name = ""
    · subst nameless
      refine Or.inr ⟨_, Unreadable.unnamed ?_⟩
      intro other same
      have quote := congrArg List.head? same
      exact head?_append_ne unquoted ends quote
    · refine Or.inl ⟨.plain, name, String.ofList value, rest, ⟨nameless, nameable⟩, ?_, ends, ?_⟩
      · rw [Form.Allows, String.toList_ofList]
        exact ⟨bare, unquoted⟩
      · simp only [Form.text, String.toList_ofList, List.append_assoc, List.cons_append]

theorem item_or_unreadable {text : List Char} (begins : Begins text) :
    BeginsItem text ∨ ∃ fault, Unreadable text fault := by
  obtain ⟨chars, behind, rfl, named, stops⟩ := exists_cut isNameChar text
  obtain ⟨name, rfl⟩ : ∃ name : String, chars = name.toList := ⟨_, String.toList_ofList.symm⟩
  have nameable : NameChars name.toList := fun char member =>
    (isNameChar_iff char).mp (named char member)
  by_cases pair : behind.head? = some '='
  · obtain ⟨text, rfl⟩ := List.head?_eq_some_iff.mp pair
    exact pair_or_unreadable nameable text
  · have breaks : Breaks behind := by
      intro char found
      have other : char ≠ '=' := fun same => pair (same ▸ found)
      rcases shown : Text.isBlank char with - | -
      · have passes := (isNameChar_iff char).mpr ⟨other, shown⟩
        rw [stops char found] at passes
        exact nomatch passes
      · rfl
    refine Or.inl ⟨.bare, name, "", behind, ⟨?_, nameable⟩, rfl, breaks, rfl⟩
    rintro rfl
    obtain ⟨first, rest, split, solid⟩ := begins
    rw [breaks first (congrArg List.head? split)] at solid
    exact nomatch solid

/-! ## Lists of items -/

theorem form_begins {name : String} (nameable : Nameable name) (form : Form) (value : String) :
    Begins (form.text name value) := by
  obtain ⟨someName, nameable⟩ := nameable
  obtain ⟨first, chars, split⟩ : ∃ first chars, name.toList = first :: chars :=
    List.exists_cons_of_ne_nil fun noneName => someName (String.toList_eq_nil_iff.mp noneName)
  have solid := (nameable first (split ▸ List.mem_cons_self)).2
  cases form <;> rw [Form.text, split] <;> exact ⟨first, _, rfl, solid⟩

theorem Unreadable.begins {text : List Char} {fault : Fault}
    (unreadable : Unreadable text fault) : Begins text := by
  cases unreadable with
  | @unterminated name value nameable =>
      rcases split : name.toList with - | ⟨first, chars⟩
      · exact ⟨'=', _, rfl, rfl⟩
      · exact ⟨first, _, rfl, (nameable first (split ▸ List.mem_cons_self)).2⟩
  | unnamed => exact ⟨'=', _, rfl, rfl⟩

theorem readItems_blanks {blanks : List Char} (blank : Blanks blanks) (bound : Nat)
    (attributes : Attributes) : readItems bound attributes blanks = .ok attributes := by
  cases bound with
  | zero => rfl
  | succ bound =>
      have ends : ∀ char, ([] : List Char).head? = some char → Text.isBlank char = false :=
        fun char found => nomatch found
      have skipped := (cut_append blank ends).2
      rw [List.append_nil] at skipped
      rw [readItems, skipped]

theorem dropWhile_blanks {blanks text : List Char} (blank : Blanks blanks) (begins : Begins text) :
    ∃ first rest, text = first :: rest ∧
      (blanks ++ text).dropWhile Text.isBlank = first :: rest := by
  obtain ⟨first, rest, rfl, solid⟩ := begins
  refine ⟨first, rest, rfl, (cut_append blank ?_).2⟩
  intro char found
  cases Option.some.inj found
  exact solid

theorem readItems_error {blanks text : List Char} {fault : Fault} (blank : Blanks blanks)
    (begins : Begins text) (failed : readItem text = .error fault) (bound : Nat)
    (attributes : Attributes) :
    readItems (bound + 1) attributes (blanks ++ text) = .error fault := by
  obtain ⟨first, rest, rfl, skipped⟩ := dropWhile_blanks blank begins
  simp only [readItems, skipped, failed]

theorem readItems_item {blanks text rest : List Char} {item : String × String}
    (blank : Blanks blanks) (begins : Begins text) (read : readItem text = .ok (item, rest))
    (bound : Nat) (attributes : Attributes) :
    readItems (bound + 1) attributes (blanks ++ text) =
      readItems bound (attributes.insert item.1 item.2) rest := by
  obtain ⟨first, others, rfl, skipped⟩ := dropWhile_blanks blank begins
  simp only [readItems, skipped, read]

theorem readItems_of_reads {items : List (String × String)} {outcome : Option Fault}
    {text : List Char} (reads : Reads items outcome text) {bound : Nat}
    (enough : text.length ≤ bound) (attributes : Attributes) :
    readItems bound attributes text =
      outcome.elim (.ok (attributes.insertAll items)) Except.error := by
  induction reads generalizing bound attributes with
  | done blank => exact readItems_blanks blank bound attributes
  | @fails blanks rest fault blank unreadable =>
      obtain ⟨first, chars, rfl, solid⟩ := unreadable.begins
      simp only [List.length_append, List.length_cons] at enough
      obtain ⟨bound, rfl⟩ : ∃ less, bound = less + 1 := ⟨bound - 1, by omega⟩
      have failed := readItem_unreadable unreadable
      exact readItems_error blank unreadable.begins failed bound attributes
  | @item blanks rest name value items outcome form blank nameable allowed ends later ih =>
      obtain ⟨first, chars, split, solid⟩ := form_begins nameable form value
      have begins : form.text name value ++ rest = first :: (chars ++ rest) := by
        rw [split, List.cons_append]
      simp only [split, List.length_append, List.length_cons] at enough
      obtain ⟨bound, rfl⟩ : ∃ less, bound = less + 1 := ⟨bound - 1, by omega⟩
      rw [readItems_item blank ⟨first, _, begins, solid⟩ (readItem_form nameable allowed ends)]
      exact ih (by omega) _

theorem exists_reads (text : List Char) : ∃ items outcome, Reads items outcome text := by
  induction length : text.length using Nat.strongRecOn generalizing text with
  | ind length ih =>
      subst length
      obtain ⟨blanks, text, rfl, blank, solid⟩ := exists_cut Text.isBlank text
      rcases begins : text.head? with - | first
      · rw [List.head?_eq_none_iff.mp begins, List.append_nil]
        exact ⟨_, _, Reads.done blank⟩
      · obtain ⟨rest, split⟩ := List.head?_eq_some_iff.mp begins
        rcases item_or_unreadable ⟨first, rest, split, solid first begins⟩ with
          ⟨form, name, value, rest, nameable, allowed, ends, rfl⟩ | ⟨fault, unreadable⟩
        · obtain ⟨char, chars, split, -⟩ := form_begins nameable form value
          have shorter : rest.length < (blanks ++ (form.text name value ++ rest)).length := by
            simp only [split, List.length_append, List.length_cons]
            omega
          obtain ⟨items, outcome, later⟩ := ih _ shorter rest rfl
          exact ⟨_, _, Reads.item form blank nameable allowed ends later⟩
        · exact ⟨_, _, Reads.fails blank unreadable⟩

theorem parse_of_reads {items : List (String × String)} {outcome : Option Fault} {text : String}
    (reads : Reads items outcome text.toList) :
    parse text = outcome.elim (.ok (Dictionary.ofList items)) Except.error :=
  readItems_of_reads reads (Nat.le_refl _) Dictionary.empty

theorem parse_ok_iff (text : String) (attributes : Attributes) :
    parse text = .ok attributes ↔
      ∃ items, Reads items none text.toList ∧ attributes = Dictionary.ofList items := by
  constructor
  · intro parsed
    obtain ⟨items, outcome, reads⟩ := exists_reads text.toList
    rw [parse_of_reads reads] at parsed
    cases outcome with
    | none => exact ⟨items, reads, (Except.ok.inj parsed).symm⟩
    | some fault => exact nomatch parsed
  · rintro ⟨items, reads, rfl⟩
    exact parse_of_reads reads

theorem parse_error_iff (text : String) (fault : Fault) :
    parse text = .error fault ↔ ∃ items, Reads items (some fault) text.toList := by
  constructor
  · intro failed
    obtain ⟨items, outcome, reads⟩ := exists_reads text.toList
    rw [parse_of_reads reads] at failed
    cases outcome with
    | none => exact nomatch failed
    | some other =>
        cases Except.error.inj failed
        exact ⟨items, reads⟩
  · rintro ⟨items, reads⟩
    exact parse_of_reads reads

/-! ## Writing and reading -/

theorem Lists.reads {items : List (String × String)} {text : List Char} (lists : Lists items text) :
    Reads items none text := by
  induction lists with
  | nothing blank => exact Reads.done blank
  | @item blanks rest name value items form blank nameable allowed ends _ ih =>
      refine Reads.item form blank nameable allowed ?_ ih
      cases form with
      | bare => exact ends
      | plain => exact ends
      | quoted =>
          intro quote
          exact nomatch ends _ quote

theorem Lists.blank {items : List (String × String)} {text : List Char} {char : Char}
    (blank : Text.isBlank char = true) (lists : Lists items text) : Lists items (char :: text) := by
  have more {blanks : List Char} (others : Blanks blanks) : Blanks (char :: blanks) :=
    List.forall_mem_cons.mpr ⟨blank, others⟩
  cases lists with
  | nothing others => exact Lists.nothing (more others)
  | item form others nameable allowed ends later =>
      exact Lists.item form (more others) nameable allowed ends later

theorem lists_quoted {items : List (String × String)} (nameable : ∀ item ∈ items, Nameable item.1) :
    Lists items ([' '].intercalate (items.map fun item => Form.quoted.text item.1 item.2)) := by
  have noneAhead : Blanks [] := fun char member => nomatch member
  induction items with
  | nil => exact Lists.nothing noneAhead
  | cons item rest ih =>
      obtain ⟨name, value⟩ := item
      obtain ⟨first, others⟩ := List.forall_mem_cons.mp nameable
      have later := ih others
      rcases rest with - | ⟨next, rest⟩
      · have alone : Lists [(name, value)] ([] ++ (Form.quoted.text name value ++ [])) :=
          Lists.item .quoted noneAhead first trivial breaks_nil (Lists.nothing noneAhead)
        rw [List.nil_append, List.append_nil] at alone
        rwa [List.map_singleton, List.intercalate_singleton]
      · have ahead := breaks_cons (rfl : Text.isBlank ' ' = true)
          ([' '].intercalate ((next :: rest).map fun item => Form.quoted.text item.1 item.2))
        exact Lists.item .quoted noneAhead first trivial ahead (Lists.blank rfl later)

theorem Reads.nameable {items : List (String × String)} {outcome : Option Fault} {text : List Char}
    (reads : Reads items outcome text) : ∀ item ∈ items, Nameable item.1 := by
  induction reads with
  | done | fails => exact fun item member => nomatch member
  | item form _ nameable _ _ _ ih => exact List.forall_mem_cons.mpr ⟨nameable, ih⟩

theorem Unreadable.fault_eq {text : List Char} {fault : Fault}
    (unreadable : Unreadable text fault) :
    (∃ name, fault = .invalidAttribute name .unterminatedQuote) ∨
      fault = .invalidAttribute "" .emptyName := by
  cases unreadable with
  | unterminated => exact Or.inl ⟨_, rfl⟩
  | unnamed => exact Or.inr rfl

theorem Reads.fault_eq {items : List (String × String)} {fault : Fault} {text : List Char}
    (reads : Reads items (some fault) text) :
    (∃ name, fault = .invalidAttribute name .unterminatedQuote) ∨
      fault = .invalidAttribute "" .emptyName := by
  generalize same : some fault = outcome at reads
  induction reads with
  | done => exact nomatch same
  | fails _ unreadable =>
      cases Option.some.inj same
      exact unreadable.fault_eq
  | item _ _ _ _ _ _ ih => exact ih same

/--
A text that lists items, each in an allowed form, is read as the last value of each name. Whatever
is read from a text has names that can be written, and is read again from any list of it, such as
the one in quotes. A text is not read only if behind some items a quoted value does not end or a
value has no name.
-/
theorem parse_written (text : String) :
    (∀ items, Lists items text.toList →
      ∃ attributes, parse text = .ok attributes ∧
        ∀ name, attributes.get? name = Dictionary.lastValue items name) ∧
    (∀ attributes, parse text = .ok attributes →
      (∀ name ∈ attributes.keys, Nameable name) ∧ parse attributes.quoted = .ok attributes ∧
        ∀ other : String, Lists attributes.entries other.toList → parse other = .ok attributes) ∧
    ∀ fault, (parse text = .error fault ↔ ∃ items, Reads items (some fault) text.toList) ∧
      (parse text = .error fault →
        (∃ name, fault = .invalidAttribute name .unterminatedQuote) ∨
          fault = .invalidAttribute "" .emptyName) := by
  refine ⟨?_, ?_, ?_⟩
  · intro items lists
    exact ⟨_, parse_of_reads lists.reads, Dictionary.get?_ofList items⟩
  · intro attributes parsed
    obtain ⟨items, reads, made⟩ := (parse_ok_iff text attributes).mp parsed
    have nameable : ∀ item ∈ attributes.entries, Nameable item.1 := by
      intro item member
      rw [made] at member
      rcases Dictionary.mem_insertAll member with found | nothing
      · exact reads.nameable item found
      · exact nomatch nothing
    have again (other : String) (lists : Lists attributes.entries other.toList) :
        parse other = .ok attributes := by
      rw [parse_of_reads lists.reads, Dictionary.ofList_entries]
      rfl
    refine ⟨?_, ?_, again⟩
    · intro name member
      obtain ⟨item, found, rfl⟩ := List.mem_map.mp member
      exact nameable item found
    · refine again attributes.quoted ?_
      rw [quoted, String.toList_ofList]
      exact lists_quoted nameable
  · intro fault
    refine ⟨parse_error_iff text fault, ?_⟩
    intro failed
    obtain ⟨items, reads⟩ := (parse_error_iff text fault).mp failed
    exact reads.fault_eq

/-- Items in each form, a name twice, a doubled quote and an unusual blank. -/
theorem parse_written_forms :
    let text := " flag user='it''s'\t\u00a0user=eve=1"
    let items := [("flag", ""), ("user", "it's"), ("user", "eve=1")]
    (Lists items text.toList ∧ ∃ attributes, parse text = .ok attributes ∧
        attributes.get? "user" = some "eve=1" ∧ attributes.get? "flag" = some "") ∧
      (parse text = .ok (Dictionary.ofList items) ∧ Nameable "flag" ∧
        parse "flag='' user='eve=1'" = .ok (Dictionary.ofList items)) ∧
      parse "user='it''s" = .error (.invalidAttribute "user" .unterminatedQuote) ∧
      ∃ items, Reads items (some (.invalidAttribute "user" .unterminatedQuote))
        "user='it''s".toList := by
  intro text items
  have third : Lists [("user", "eve=1")]
      (['\t', '\u00a0'] ++ (Form.plain.text "user" "eve=1" ++ [])) :=
    Lists.item .plain (by decide) (by decide +kernel) (by decide +kernel) breaks_nil
      (Lists.nothing (by decide))
  have second : Lists [("user", "it's"), ("user", "eve=1")]
      ([' '] ++ (Form.quoted.text "user" "it's" ++ "\t\u00a0user=eve=1".toList)) :=
    Lists.item .quoted (by decide) (by decide +kernel) trivial (breaks_cons rfl _) third
  have first : Lists items
      ([' '] ++ (Form.bare.text "flag" "" ++ " user='it''s'\t\u00a0user=eve=1".toList)) :=
    Lists.item .bare (by decide) (by decide +kernel) rfl (breaks_cons rfl _) second
  have chars : text.toList =
      [' '] ++ (Form.bare.text "flag" "" ++ " user='it''s'\t\u00a0user=eve=1".toList) := by
    decide +kernel
  have lists : Lists items text.toList := chars ▸ first
  have parsed : parse text = .ok (Dictionary.ofList items) := parse_of_reads lists.reads
  have user : Nameable "user" := by decide +kernel
  have unterminated : Unreadable ("user".toList ++ '=' :: '\'' :: doubled "it's".toList)
      (.invalidAttribute "user" .unterminatedQuote) := .unterminated user.2
  have spelled : "user='it''s".toList =
      [] ++ ("user".toList ++ '=' :: '\'' :: doubled "it's".toList) := by decide +kernel
  have failed : parse "user='it''s" = .error (.invalidAttribute "user" .unterminatedQuote) :=
    parse_of_reads (spelled ▸ Reads.fails (by decide) unterminated)
  obtain ⟨attributes, read, last⟩ := (parse_written text).1 items lists
  obtain ⟨nameable, again, -⟩ := (parse_written text).2.1 _ parsed
  have flag : "flag" ∈ (Dictionary.ofList items).keys := by decide +kernel
  have rewritten : quoted (Dictionary.ofList items) = "flag='' user='eve=1'" := by decide +kernel
  refine ⟨⟨lists, attributes, read, ?_, ?_⟩, ⟨parsed, nameable "flag" flag, rewritten ▸ again⟩,
    failed, ((parse_written _).2.2 _).1.mp failed⟩
  · rw [last]
    decide +kernel
  · rw [last]
    decide +kernel

end Attributes

end Parley
