/-!
# Sets and tables of names

A set of names is kept sorted and without repetition, so two sets with the same members are equal.
A table maps names to sets in the same way.
-/

namespace FeedWatch

/-- Inserts a name into a sorted list, unless it is there. -/
def insertName (name : String) : List String → List String
  | [] => [name]
  | n :: rest =>
    if name < n then name :: n :: rest
    else if n < name then n :: insertName name rest
    else n :: rest

theorem eq_of_not_lt {a b : String} (h₁ : ¬ a < b) (h₂ : ¬ b < a) : a = b :=
  String.le_antisymm (String.not_lt.1 h₂) (String.not_lt.1 h₁)

@[simp] theorem mem_insertName {x name : String} {names : List String} :
    x ∈ insertName name names ↔ x = name ∨ x ∈ names := by
  induction names with
  | nil => simp [insertName]
  | cons n rest ih =>
    unfold insertName
    split
    · simp
    · split
      · simp [ih, or_left_comm]
      · rename_i h₁ h₂
        simp [eq_of_not_lt h₁ h₂]

theorem sorted_insertName (name : String) {names : List String} (h : names.Pairwise (· < ·)) :
    (insertName name names).Pairwise (· < ·) := by
  induction names with
  | nil => simp [insertName]
  | cons n rest ih =>
    rw [List.pairwise_cons] at h
    unfold insertName
    split
    · rename_i hlt
      refine List.pairwise_cons.2 ⟨fun x hx => ?_, List.pairwise_cons.2 h⟩
      rcases List.mem_cons.1 hx with rfl | hx
      · exact hlt
      · exact String.lt_trans hlt (h.1 x hx)
    · split
      · rename_i hgt
        refine List.pairwise_cons.2 ⟨fun x hx => ?_, ih h.2⟩
        rcases mem_insertName.1 hx with rfl | hx
        · exact hgt
        · exact h.1 x hx
      · exact List.pairwise_cons.2 h

/-- A set of names. -/
structure NameSet where
  toList : List String
  sorted : toList.Pairwise (· < ·)
deriving DecidableEq

namespace NameSet

/-- The set without members. -/
def empty : NameSet := ⟨[], .nil⟩

/-- Adds a member. -/
def insert (name : String) (s : NameSet) : NameSet :=
  ⟨insertName name s.toList, sorted_insertName name s.sorted⟩

/-- The set of the names in a list. -/
def ofList (names : List String) : NameSet := names.foldl (fun s name => s.insert name) empty

/-- Whether a name is a member. -/
def contains (s : NameSet) (name : String) : Bool := s.toList.contains name

end NameSet

/-- A table from names to sets of names, sorted by key. -/
structure NameTable where
  entries : List (String × NameSet)
  sorted : (entries.map (·.1)).Pairwise (· < ·)
deriving DecidableEq

namespace NameTable

/-- The set under a key, with the key added and the set changed as `f` says. -/
def alterEntries (key : String) (f : NameSet → NameSet) :
    List (String × NameSet) → List (String × NameSet)
  | [] => [(key, f .empty)]
  | (k, s) :: rest =>
    if key < k then (key, f .empty) :: (k, s) :: rest
    else if k < key then (k, s) :: alterEntries key f rest
    else (k, f s) :: rest

/-- The keys grow by the altered one, in order. -/
theorem keys_alterEntries (key : String) (f : NameSet → NameSet)
    (entries : List (String × NameSet)) :
    (alterEntries key f entries).map (·.1) = insertName key (entries.map (·.1)) := by
  induction entries with
  | nil => rfl
  | cons e rest ih =>
    obtain ⟨k, s⟩ := e
    simp only [alterEntries, List.map_cons, insertName]
    split
    · rfl
    · split
      · simp [ih]
      · rfl

/-- The table without keys. -/
def empty : NameTable := ⟨[], .nil⟩

/-- Changes the set under a key; a new key starts from the empty set. -/
def alter (key : String) (f : NameSet → NameSet) (t : NameTable) : NameTable :=
  ⟨alterEntries key f t.entries, by
    rw [keys_alterEntries]; exact sorted_insertName key t.sorted⟩

/-- Adds a key. -/
def touch (key : String) (t : NameTable) : NameTable := t.alter key id

/-- Adds a name to the set under a key. -/
def add (key name : String) (t : NameTable) : NameTable := t.alter key (·.insert name)

/-- The set under a key. -/
def find? (t : NameTable) (key : String) : Option NameSet := t.entries.lookup key

/-- The set under a key, empty for an unknown one. -/
def find (t : NameTable) (key : String) : NameSet := (t.find? key).getD .empty

/-- Whether the table has a key. -/
def hasKey (t : NameTable) (key : String) : Bool := (t.find? key).isSome

end NameTable

end FeedWatch
