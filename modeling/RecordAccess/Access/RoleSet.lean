import RecordAccess.Json.Decode
import RecordAccess.Text.Blank

/-!
# Role sets

A role is an opaque label such as `admin` or `user:42`. A role set is kept as the strictly
ascending list of its roles, so that equal sets are equal values however they were built.

A set is written as an array. It is read from an array, in any order and with repetitions, or
from a text that holds such an array as JSON; a blank text holds no role.
-/

namespace RecordAccess

/-- A finite set of roles, in ascending order. -/
structure RoleSet where
  toList : List String
  ascending : toList.Pairwise (· < ·)
deriving DecidableEq, Repr

namespace RoleSet

/-- The set without roles. -/
def empty : RoleSet := ⟨[], .nil⟩

instance : Inhabited RoleSet := ⟨empty⟩

instance : Membership String RoleSet := ⟨fun set role => role ∈ set.toList⟩

instance (role : String) (set : RoleSet) : Decidable (role ∈ set) :=
  inferInstanceAs (Decidable (role ∈ set.toList))

/-! ## Insertion -/

/-- Inserts a role into an ascending list, unless it is there. -/
def insertInto (role : String) : List String → List String
  | [] => [role]
  | first :: rest =>
    if role < first then role :: first :: rest
    else if role = first then first :: rest
    else first :: insertInto role rest

theorem mem_insertInto {role other : String} {roles : List String} :
    other ∈ insertInto role roles ↔ other = role ∨ other ∈ roles := by
  induction roles with
  | nil => simp [insertInto]
  | cons first rest ih =>
    unfold insertInto
    split
    · simp
    · split
      · next h => subst h; simp
      · simp only [List.mem_cons, ih]
        exact or_left_comm

theorem insertInto_ascending {role : String} {roles : List String}
    (ascending : roles.Pairwise (· < ·)) : (insertInto role roles).Pairwise (· < ·) := by
  induction roles with
  | nil => simp [insertInto]
  | cons first rest ih =>
    obtain ⟨least, rest_ascending⟩ := List.pairwise_cons.1 ascending
    unfold insertInto
    split
    · next below =>
      refine List.pairwise_cons.2 ⟨?_, ascending⟩
      intro other member
      rcases List.mem_cons.1 member with rfl | member
      · exact below
      · exact String.lt_trans below (least other member)
    · next notBelow =>
      split
      · exact ascending
      · next different =>
        refine List.pairwise_cons.2 ⟨?_, ih rest_ascending⟩
        intro other member
        rcases mem_insertInto.1 member with rfl | member
        · have atMost : first ≤ other := String.not_lt.1 notBelow
          exact Decidable.byContradiction fun notAbove =>
            different (String.le_antisymm (String.not_lt.1 notAbove) atMost)
        · exact least other member

/-- The set with one more role. -/
def insert (set : RoleSet) (role : String) : RoleSet :=
  ⟨insertInto role set.toList, insertInto_ascending set.ascending⟩

/-- The set of the roles in a list. -/
def ofList (roles : List String) : RoleSet :=
  roles.foldl insert empty

/-- The set without one role. -/
def erase (set : RoleSet) (role : String) : RoleSet :=
  ⟨set.toList.erase role, set.ascending.sublist List.erase_sublist⟩

/-! ## Questions -/

/-- Whether a role is in the set. -/
def contains (set : RoleSet) (role : String) : Bool :=
  decide (role ∈ set)

/-- How many roles there are. -/
def size (set : RoleSet) : Nat :=
  set.toList.length

/-- Whether there is no role. -/
def isEmpty (set : RoleSet) : Bool :=
  set.toList.isEmpty

/-- Whether some role is in both sets. The roles of the smaller one are looked up in the other. -/
def intersects (a b : RoleSet) : Bool :=
  if a.size ≤ b.size then a.toList.any b.contains else b.toList.any a.contains

theorem any_contains {a b : RoleSet} :
    a.toList.any b.contains = true ↔ ∃ role, role ∈ a ∧ role ∈ b := by
  simp only [List.any_eq_true, contains, decide_eq_true_eq]
  rfl

/-- Which set is the smaller one makes no difference. -/
theorem intersects_iff {a b : RoleSet} :
    a.intersects b = true ↔ ∃ role, role ∈ a ∧ role ∈ b := by
  unfold intersects
  split
  · exact any_contains
  · rw [any_contains]
    exact exists_congr fun _ => And.comm

@[simp] theorem mem_insert {set : RoleSet} {role other : String} :
    other ∈ set.insert role ↔ other = role ∨ other ∈ set :=
  mem_insertInto

theorem mem_foldl_insert {roles : List String} {set : RoleSet} {role : String} :
    role ∈ roles.foldl insert set ↔ role ∈ roles ∨ role ∈ set := by
  induction roles generalizing set with
  | nil => simp
  | cons first rest ih => simp [ih, or_assoc, or_left_comm]

/-- The set of a list has the roles of the list. -/
@[simp] theorem mem_ofList {roles : List String} {role : String} :
    role ∈ ofList roles ↔ role ∈ roles := by
  have none_in_empty : role ∉ empty := List.not_mem_nil
  simp [ofList, mem_foldl_insert, none_in_empty]

/-! ## Written forms -/

/-- The array of the roles, in ascending order. -/
def toJson (set : RoleSet) : Json :=
  .strings set.toList

/-- Reads a text that holds an array of roles; a blank text holds none. -/
def ofText (text : String) : Except DecodeError RoleSet :=
  if Text.isAllBlank text then .ok empty
  else
    match (Decoder.list Decoder.text).ofText text with
    | .ok roles => .ok (ofList roles)
    | .error cause => .error (.roleList cause)

/-- The roles of an array that holds nothing but texts. -/
def rolesOf? : Json → Option (List String)
  | .array items => items.mapM fun
    | .string role => some role
    | _ => none
  | _ => none

/-- Decodes a set from an array of roles or from a text that holds one. -/
def decode : Decoder RoleSet := fun document => do
  let value ← Decoder.json document
  match value with
  | .string text => ofText text
  | value =>
    match rolesOf? value with
    | some roles => .ok (ofList roles)
    | none => .error (.noForm "RoleSetRepr")

end RoleSet

end RecordAccess
