import RecordAccess.Record.Basic

/-!
# Store errors

Why a store refuses a call, or fails in it.
-/

namespace RecordAccess

/-- Why a store call has no result. -/
inductive StoreError where
  /-- There is no record with the id. -/
  | notFound (kind id : String)
  /-- There is a record with the id already. -/
  | duplicate (kind id : String)
  /-- The stored revision is not the one that an update expects. -/
  | revisionMismatch (current : Record)
  /-- A query wants a relation that is not declared. -/
  | unknownRelation (name : String)
  /-- The store failed. -/
  | backend (reason : String)
deriving Inhabited, Repr, DecidableEq

namespace StoreError

/-- The wording of an error. -/
def message : StoreError → String
  | notFound kind id => kind ++ " not found: " ++ id
  | duplicate kind id => kind ++ " already exists: " ++ id
  | revisionMismatch current =>
    "Revision mismatch: stored revision is " ++ toString current.revision
  | unknownRelation name => "Unknown relation: " ++ name
  | backend reason => "Storage error: " ++ reason

/-- Whether the error says that a record does not exist. -/
def isNotFound : StoreError → Bool
  | notFound _ _ => true
  | _ => false

end StoreError

end RecordAccess
