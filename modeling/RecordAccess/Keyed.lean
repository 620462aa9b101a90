/-!
# Tables keyed by text

`Keyed α` lists entries in the order in which their keys were first inserted. Inserting under a
key that is there replaces its value in place, so a key keeps its first position and takes its
last value.
-/

namespace RecordAccess

/-- Entries under text keys, in order of first insertion. -/
abbrev Keyed (α : Type) := List (String × α)

namespace Keyed

variable {α : Type}

/-- The value of the first entry under a key. -/
def find? : Keyed α → String → Option α
  | [], _ => none
  | (k, value) :: rest, key => if k = key then some value else find? rest key

/-- Whether there is an entry under a key. -/
def contains (table : Keyed α) (key : String) : Bool :=
  (table.find? key).isSome

/-- Puts a value under a key, in place of the first entry that is there or else at the end. -/
def insert : Keyed α → String → α → Keyed α
  | [], key, value => [(key, value)]
  | (k, old) :: rest, key, value =>
    if k = key then (key, value) :: rest else (k, old) :: insert rest key value

/-- Removes the first entry under a key. -/
def erase : Keyed α → String → Keyed α
  | [], _ => []
  | (k, value) :: rest, key => if k = key then rest else (k, value) :: erase rest key

/-- The table that a list of entries builds, inserted one after another into another table. -/
def insertAll (table : Keyed α) (entries : List (String × α)) : Keyed α :=
  entries.foldl (fun table entry => table.insert entry.1 entry.2) table

/-- The table that a list of entries builds, inserted one after another. -/
def ofList (entries : List (String × α)) : Keyed α :=
  insertAll [] entries

/-- The keys, in order. -/
def keys (table : Keyed α) : List String :=
  table.map Prod.fst

/-! ## What a look-up sees of an insertion -/

@[simp] theorem find?_nil (key : String) : find? ([] : Keyed α) key = none := rfl

@[simp] theorem find?_insert_self (table : Keyed α) (key : String) (value : α) :
    (table.insert key value).find? key = some value := by
  induction table with
  | nil => simp [insert, find?]
  | cons entry rest ih =>
    by_cases h : entry.1 = key
    · simp [insert, find?, h]
    · simp [insert, find?, h, ih]

theorem find?_insert_of_ne (table : Keyed α) {key other : String} (value : α) (h : key ≠ other) :
    (table.insert key value).find? other = table.find? other := by
  induction table with
  | nil => simp [insert, find?, h]
  | cons entry rest ih =>
    by_cases he : entry.1 = key
    · subst he
      simp [insert, find?, h]
    · simp [insert, find?, he, ih]

end Keyed

end RecordAccess
