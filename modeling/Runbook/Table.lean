/-!
Finite maps from names to values, kept as lists of pairs in ascending order of the name, and
finite sets of names kept as ascending lists. Names are ordered by code point, which is also
the order of their UTF-8 bytes. Looking a name up after an insertion or a removal is given by
`find?_insert` and `find?_erase`.
-/

namespace Runbook

abbrev Table (α : Type) := List (String × α)

namespace Table

variable {α β : Type}

/-- The value at `key`; the first entry counts. -/
def find? (key : String) : Table α → Option α
  | [] => none
  | (k, v) :: rest => if k = key then some v else find? key rest

def contains (key : String) (t : Table α) : Bool := (t.find? key).isSome

def keys (t : Table α) : List String := t.map (·.1)

def insert (key : String) (value : α) : Table α → Table α
  | [] => [(key, value)]
  | (k, v) :: rest =>
      if k = key then (key, value) :: rest
      else if key < k then (key, value) :: (k, v) :: rest
      else (k, v) :: insert key value rest

def erase (key : String) : Table α → Table α
  | [] => []
  | (k, v) :: rest => if k = key then erase key rest else (k, v) :: erase key rest

/-- Of several values given to one name the last one wins. -/
def ofList (entries : List (String × α)) : Table α :=
  entries.foldl (fun t entry => t.insert entry.1 entry.2) []

def mapValues (f : α → β) (t : Table α) : Table β := t.map fun (k, v) => (k, f v)

/-- The names stand in strictly ascending order. -/
def Sorted (t : Table α) : Prop := t.Pairwise (·.1 < ·.1)

@[simp] theorem find?_nil (key : String) : find? key ([] : Table α) = none := rfl

theorem find?_insert (t : Table α) (key other : String) (value : α) :
    (t.insert key value).find? other = if other = key then some value else t.find? other := by
  induction t with
  | nil => simp only [insert, find?]; grind
  | cons entry rest ih =>
    obtain ⟨k, v⟩ := entry
    simp only [insert, find?]
    split
    · simp only [find?]; grind
    · split
      · simp only [find?]; grind
      · simp only [find?, ih]; grind

theorem find?_erase (t : Table α) (key other : String) :
    (t.erase key).find? other = if other = key then none else t.find? other := by
  induction t with
  | nil => simp [erase]
  | cons entry rest ih =>
    obtain ⟨k, v⟩ := entry
    simp only [erase, find?]
    split
    · rw [ih]; grind
    · simp only [find?, ih]; grind

end Table

/-- A set of names in ascending order. -/
abbrev Names := List String

namespace Names

def insert (name : String) : Names → Names
  | [] => [name]
  | n :: rest =>
      if n = name then n :: rest
      else if name < n then name :: n :: rest
      else n :: insert name rest

def ofList (names : List String) : Names := names.foldl (fun s n => insert n s) []

theorem mem_insert {name other : String} {s : Names} :
    other ∈ insert name s ↔ other = name ∨ other ∈ s := by
  induction s with
  | nil => simp [insert]
  | cons n rest ih =>
    simp only [insert]
    split
    · grind
    · split <;> grind

theorem mem_foldl_insert {other : String} (names : List String) (s : Names) :
    other ∈ names.foldl (fun s n => insert n s) s ↔ other ∈ names ∨ other ∈ s := by
  induction names generalizing s with
  | nil => simp
  | cons n rest ih => simp only [List.foldl_cons, ih, mem_insert]; grind

theorem mem_ofList {other : String} {names : List String} :
    other ∈ ofList names ↔ other ∈ names := by
  simp [ofList, mem_foldl_insert]

end Names

end Runbook
