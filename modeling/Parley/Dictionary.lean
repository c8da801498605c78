/-!
Dictionaries keyed by text: each key occurs once and the entries stand in ascending order of keys,
so two dictionaries with the same contents are equal.
-/

namespace Parley

/-- Entries with pairwise distinct keys, in ascending order of keys. -/
structure Dictionary (α : Type) where
  entries : List (String × α)
  ascending : entries.Pairwise (fun first second => first.1 < second.1)

namespace Dictionary

variable {α : Type}

def insertEntry (key : String) (value : α) : List (String × α) → List (String × α)
  | [] => [(key, value)]
  | entry :: rest =>
    if key < entry.1 then (key, value) :: entry :: rest
    else if key = entry.1 then (key, value) :: rest
    else entry :: insertEntry key value rest

theorem mem_insertEntry {key : String} {value : α} {entries : List (String × α)}
    {entry : String × α} (member : entry ∈ insertEntry key value entries) :
    entry = (key, value) ∨ entry ∈ entries := by
  induction entries with
  | nil => simpa [insertEntry] using member
  | cons head rest ih =>
    simp only [insertEntry] at member
    split at member
    · simpa using member
    · split at member
      · rcases List.mem_cons.1 member with found | found
        · exact Or.inl found
        · exact Or.inr (List.mem_cons_of_mem _ found)
      · rcases List.mem_cons.1 member with found | found
        · exact Or.inr (found ▸ List.mem_cons_self)
        · rcases ih found with same | later
          · exact Or.inl same
          · exact Or.inr (List.mem_cons_of_mem _ later)

theorem insertEntry_ascending (key : String) (value : α) (entries : List (String × α))
    (ascending : entries.Pairwise (fun first second => first.1 < second.1)) :
    (insertEntry key value entries).Pairwise (fun first second => first.1 < second.1) := by
  induction entries with
  | nil => simp [insertEntry]
  | cons head rest ih =>
    have parts := List.pairwise_cons.1 ascending
    simp only [insertEntry]
    split
    · rename_i below
      refine List.pairwise_cons.2 ⟨fun entry member => ?_, ascending⟩
      rcases List.mem_cons.1 member with same | later
      · exact same ▸ below
      · exact String.lt_trans below (parts.1 entry later)
    · split
      · rename_i same
        refine List.pairwise_cons.2 ⟨fun entry member => ?_, parts.2⟩
        exact same ▸ parts.1 entry member
      · rename_i notBelow different
        refine List.pairwise_cons.2 ⟨fun entry member => ?_, ih parts.2⟩
        rcases mem_insertEntry member with same | later
        · subst same
          rcases Std.lt_trichotomy key head.1 with below | same | above
          · exact absurd below notBelow
          · exact absurd same different
          · exact above
        · exact parts.1 entry later

def empty : Dictionary α := ⟨[], List.Pairwise.nil⟩

instance : Inhabited (Dictionary α) := ⟨empty⟩

def insert (dictionary : Dictionary α) (key : String) (value : α) : Dictionary α :=
  ⟨insertEntry key value dictionary.entries,
    insertEntry_ascending key value dictionary.entries dictionary.ascending⟩

def erase (dictionary : Dictionary α) (key : String) : Dictionary α :=
  ⟨dictionary.entries.filter (fun entry => entry.1 ≠ key), dictionary.ascending.filter _⟩

def get? (dictionary : Dictionary α) (key : String) : Option α :=
  (dictionary.entries.find? (fun entry => entry.1 = key)).map (·.2)

def contains (dictionary : Dictionary α) (key : String) : Bool := (dictionary.get? key).isSome

def keys (dictionary : Dictionary α) : List String := dictionary.entries.map (·.1)

def size (dictionary : Dictionary α) : Nat := dictionary.entries.length

def isEmpty (dictionary : Dictionary α) : Bool := dictionary.entries.isEmpty

def ofList (entries : List (String × α)) : Dictionary α :=
  entries.foldl (fun dictionary entry => dictionary.insert entry.1 entry.2) empty

theorem find?_insertEntry_self (key : String) (value : α) (entries : List (String × α)) :
    (insertEntry key value entries).find? (fun entry => entry.1 = key) = some (key, value) := by
  induction entries with
  | nil => simp [insertEntry]
  | cons entry rest ih =>
    simp only [insertEntry]
    split
    · simp
    · split
      · simp
      · rename_i different
        rw [List.find?_cons_of_neg (by simpa using Ne.symm different), ih]

theorem find?_insertEntry_of_ne {key other : String} (different : other ≠ key) (value : α)
    (entries : List (String × α)) :
    (insertEntry key value entries).find? (fun entry => entry.1 = other) =
      entries.find? (fun entry => entry.1 = other) := by
  induction entries with
  | nil => simp [insertEntry, Ne.symm different]
  | cons entry rest ih =>
    simp only [insertEntry]
    split
    · simp [Ne.symm different]
    · split
      · rename_i same
        simp [← same, Ne.symm different]
      · by_cases found : entry.1 = other
        · simp [found]
        · simp [found, ih]

theorem get?_insert (dictionary : Dictionary α) (key other : String) (value : α) :
    (dictionary.insert key value).get? other =
      if other = key then some value else dictionary.get? other := by
  split
  · rename_i same
    subst same
    simp [get?, insert, find?_insertEntry_self]
  · rename_i different
    simp [get?, insert, find?_insertEntry_of_ne different]

theorem get?_erase (dictionary : Dictionary α) (key other : String) :
    (dictionary.erase key).get? other = if other = key then none else dictionary.get? other := by
  simp only [get?, erase]
  induction dictionary.entries with
  | nil => simp
  | cons entry rest ih =>
    by_cases kept : entry.1 = key <;> by_cases found : entry.1 = other <;> grind

end Dictionary

end Parley
