import RecordAccess.Access.Decision
import RecordAccess.Access.Operation
import RecordAccess.Filter.Error
import RecordAccess.Store.Error

/-!
# Service errors

Every way in which a request can fail, with its wording, its code, and its status as a web
response. A conflict carries the record as it is stored.
-/

namespace RecordAccess

/-- What is wrong with a request apart from its filter. -/
inductive RequestFault where
  | idRequired
  | payloadNotObject
  | invalidPayload (cause : DecodeError)
  | unknownRelation (name : String)
  /-- A reason in words. -/
  | described (reason : String)
deriving Inhabited, Repr

/-- The wording of a fault. -/
def RequestFault.message : RequestFault → String
  | idRequired => "id is required"
  | payloadNotObject => "payload must be a JSON object"
  | invalidPayload cause => "Invalid payload: " ++ cause.message
  | unknownRelation name => "Unknown relation: " ++ name
  | described reason => reason

/-- Why a request fails. -/
inductive ServiceError where
  | unknownKind (kind : String)
  | operationNotAllowed (operation : Operation) (kind : String)
  | badRequest (fault : RequestFault)
  | query (error : FilterError)
  | permissionDenied
  | revisionRequired
  | revisionConflict (current : Record)
  | duplicate (kind id : String)
  | notFound (kind id : String)
  | storage (reason : String)
  | deadlineExceeded
deriving Inhabited, Repr

namespace ServiceError

/-- The wording of an error. -/
def message : ServiceError → String
  | unknownKind kind => "Unknown resource kind: " ++ kind
  | operationNotAllowed operation kind =>
    "Operation " ++ operation.name ++ " is not allowed on " ++ kind
  | badRequest fault => "Bad request: " ++ fault.message
  | query error => error.message
  | permissionDenied => "Forbidden: insufficient permissions"
  | revisionRequired => "revision is required"
  | revisionConflict _ => "conflict"
  | duplicate kind id => kind ++ " already exists: " ++ id
  | notFound kind id => kind ++ " not found: " ++ id
  | storage reason => "Storage error: " ++ reason
  | deadlineExceeded => "Deadline exceeded"

/-- The code of an error. -/
def code : ServiceError → String
  | unknownKind _ => "UNKNOWN_KIND"
  | operationNotAllowed _ _ => "OPERATION_NOT_ALLOWED"
  | badRequest _ => "BAD_REQUEST"
  | query error => error.code
  | permissionDenied => "FORBIDDEN"
  | revisionRequired => "REVISION_REQUIRED"
  | revisionConflict _ => "REVISION_CONFLICT"
  | duplicate _ _ => "DUPLICATE"
  | notFound _ _ => "NOT_FOUND"
  | storage _ => "STORAGE_ERROR"
  | deadlineExceeded => "DEADLINE_EXCEEDED"

/-- The status of the response to an error. -/
def status : ServiceError → Nat
  | badRequest _ | query _ => 400
  | permissionDenied => 403
  | unknownKind _ | notFound _ _ => 404
  | operationNotAllowed _ _ => 405
  | revisionRequired | revisionConflict _ | duplicate _ _ => 409
  | storage _ => 500
  | deadlineExceeded => 504

/-- Whether the fault is on this side and not on the client's. -/
def isServerError : ServiceError → Bool
  | storage _ | deadlineExceeded => true
  | _ => false

/-- What comes along with an error: with a conflict, the record as it is stored. -/
def data? : ServiceError → Option Json
  | revisionConflict current => some current.toJson
  | _ => none

/-- A refusal of access to a record. -/
def ofAccess (error : AccessError) (current : Record) : ServiceError :=
  match error with
  | .permissionDenied => permissionDenied
  | .revisionRequired => revisionRequired
  | .revisionConflict _ _ => revisionConflict current

/-- A failure of a store call. -/
def ofStore : StoreError → ServiceError
  | .notFound kind id => notFound kind id
  | .duplicate kind id => duplicate kind id
  | .revisionMismatch current => revisionConflict current
  | .unknownRelation name => badRequest (.unknownRelation name)
  | .backend reason => storage reason

end ServiceError

end RecordAccess
