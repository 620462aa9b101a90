import RecordAccess.Json.Decode
import RecordAccess.Text.LetterCase

/-!
# Operations and policies

The five operations on a kind of record, and the policy that says which of them are enabled.
-/

namespace RecordAccess

/-- What can be asked of a kind of record. -/
inductive Operation where
  | create
  | read
  | update
  | delete
  | query
deriving DecidableEq, Repr

namespace Operation

/-- All operations, in the order in which they are declared. -/
def all : List Operation := [create, read, update, delete, query]

/-- The name of an operation. -/
def name : Operation → String
  | create => "create"
  | read => "read"
  | update => "update"
  | delete => "delete"
  | query => "query"

/-- Whether an operation changes what is stored. -/
def isWrite : Operation → Bool
  | create | update | delete => true
  | read | query => false

/-- The operation of a name, or of the web request method that stands for it, in any case. No
character outside `A` to `Z` has a small form among the letters of these names. -/
def ofName? (text : String) : Option Operation :=
  match Text.lowercase text with
  | "create" | "post" => some create
  | "read" | "get" => some read
  | "update" | "put" => some update
  | "delete" => some delete
  | "query" => some query
  | _ => none

/-- The written form. -/
def toJson (operation : Operation) : Json :=
  .string operation.name

/-- Decodes an operation from its exact name. -/
def decode : Decoder Operation :=
  Decoder.variant (all.map fun operation => (operation.name, operation))

end Operation

/-! ## Policies -/

/-- Which operations are enabled for a kind. -/
structure AccessPolicy where
  create : Bool
  read : Bool
  update : Bool
  delete : Bool
  query : Bool
deriving DecidableEq, Repr

namespace AccessPolicy

/-- Every operation enabled. -/
def all : AccessPolicy := ⟨true, true, true, true, true⟩

/-- Every operation disabled. -/
def none : AccessPolicy := ⟨false, false, false, false, false⟩

/-- Only reading by id enabled. -/
def readOnly : AccessPolicy := { none with read := true }

/-- Enables or disables one operation. -/
def set (policy : AccessPolicy) (operation : Operation) (enabled : Bool) : AccessPolicy :=
  match operation with
  | .create => { policy with create := enabled }
  | .read => { policy with read := enabled }
  | .update => { policy with update := enabled }
  | .delete => { policy with delete := enabled }
  | .query => { policy with query := enabled }

/-- Whether an operation is enabled. -/
def allows (policy : AccessPolicy) : Operation → Bool
  | .create => policy.create
  | .read => policy.read
  | .update => policy.update
  | .delete => policy.delete
  | .query => policy.query

/-- The operations that are enabled, in the order in which they are declared. -/
def enabled (policy : AccessPolicy) : List Operation :=
  Operation.all.filter policy.allows

/-- The written form. -/
def toJson (policy : AccessPolicy) : Json :=
  .object (Operation.all.map fun operation => (operation.name, .bool (policy.allows operation)))

/-- Decodes a policy; an operation that is left out is disabled. -/
def decode : Decoder AccessPolicy :=
  Decoder.struct "AccessPolicy"
    (Operation.all.map fun operation =>
      .withDefault operation.name Decoder.flag fun policy enabled => policy.set operation enabled)
    none

end AccessPolicy

end RecordAccess
