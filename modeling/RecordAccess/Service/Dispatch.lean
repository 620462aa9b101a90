import RecordAccess.Cache.Aside
import RecordAccess.Service.Registry
import RecordAccess.Service.Request

/-!
# Dispatch

What a request does, as a program of calls of the store and the cache. Every operation first asks
the registry; whatever can be refused without a call is refused before any is made.

* A read fetches the record and then checks that the caller may read it.
* A create checks that the caller may write by the default permission of the kind.
* An update and a delete check that the caller may write the record as it is stored; an update of
  a revisioned kind must also bring the stored revision, and takes effect only if that is still
  the stored one.
* A query drops the records that the caller may not read.
-/

namespace RecordAccess

/-- What a dispatcher works with. -/
structure Service where
  registry : Registry
  aside : CacheAside
deriving DecidableEq, Repr

namespace Service

/-- Work that may fail. -/
abbrev Work (α : Type) := ExceptT ServiceError Program α

/-- Makes a part of the work depend on what was decided without a call. -/
def decided {α : Type} (outcome : Except ServiceError α) : Work α :=
  ExceptT.mk (.done outcome)

/-- Work that answers like a store call. -/
def storing {α : Type} (program : Program (Except StoreError α)) : Work α :=
  ExceptT.mk (do return (← program).mapError ServiceError.ofStore)

/-- Work that cannot fail. -/
def caching (program : Program Unit) : Work Unit :=
  ExceptT.lift program

/-- Checks that a caller may have an access to a record. -/
def checkAccess (schema : Schema) (caller : Option Principal) (access : Access)
    (record : Record) : Except ServiceError Unit :=
  (canPerform (effectivePermission record.permission schema.defaultPermission) caller
    access).mapError fun error => .ofAccess error record

/-- Checks that there is an id. -/
def requireId (id : String) : Except ServiceError Unit :=
  if id.isEmpty then .error (.badRequest .idRequired) else .ok ()

/-- The record that a payload describes. -/
def decodePayload (body : Json) : Except ServiceError Record :=
  match body with
  | .object _ =>
    (Record.decode.ofJson body).mapError fun cause => .badRequest (.invalidPayload cause)
  | _ => .error (.badRequest .payloadNotObject)

/-- The filter that a body describes, as a value or as a text that holds one. Nothing, null and a
blank text ask for everything. -/
def decodeFilter (body : Option Json) : Except ServiceError FilterExpression :=
  match body with
  | none | some .null => .ok .empty
  | some (.string text) =>
    if Text.isAllBlank text then .ok .empty
    else (FilterExpression.ofText text).mapError .query
  | some value => (FilterExpression.ofJson value).mapError .query

/-! ## The operations -/

/-- Reads a record. -/
def read (service : Service) (caller : Option Principal) (kind id : String) : Work Record := do
  let schema ← decided (service.registry.authorize kind .read)
  decided (requireId id)
  let record ← storing (service.aside.fetchOne schema id)
  decided (checkAccess schema caller .read record)
  return record

/-- Creates a record from a payload. -/
def create (service : Service) (caller : Option Principal) (kind : String) (body : Json) :
    Work Record := do
  let schema ← decided (service.registry.authorize kind .create)
  let record ← decided (decodePayload body)
  decided ((canPerform schema.defaultPermission caller .write).mapError fun error =>
    .ofAccess error record)
  let created ← storing (Program.askStore (.create schema record))
  caching (service.aside.onCreateOrUpdate schema created)
  return created

/-- The revision that an update expects to be stored: of a revisioned kind, the one that the
payload brings, which must be the current one. -/
def expectedRevision (schema : Schema) (current proposed : Record) :
    Except ServiceError (Option Int) :=
  if schema.revisioned then
    match checkRevision current.revision proposed.revision with
    | .ok () => .ok (some proposed.revision)
    | .error error => .error (.ofAccess error current)
  else .ok none

/-- Merges a payload into a record. -/
def update (service : Service) (caller : Option Principal) (kind id : String) (body : Json) :
    Work Record := do
  let schema ← decided (service.registry.authorize kind .update)
  decided (requireId id)
  let payload ← decided (decodePayload body)
  let proposed := { payload with id := id }
  let current ← storing (Program.askStore (.findOne schema id))
  decided (checkAccess schema caller .write current)
  let expected ← decided (expectedRevision schema current proposed)
  let updated ← storing (Program.askStore (.update schema proposed expected))
  caching (service.aside.onCreateOrUpdate schema updated)
  return updated

/-- Deletes a record and answers with it as it was stored last. -/
def delete (service : Service) (caller : Option Principal) (kind id : String) : Work Record := do
  let schema ← decided (service.registry.authorize kind .delete)
  decided (requireId id)
  let found ← storing (Program.askStore (.findOne schema id))
  decided (checkAccess schema caller .write found)
  let current ← storing (service.aside.onBeforeDelete schema found.id)
  storing (Program.askStore (.delete schema current.id))
  caching (service.aside.onAfterDelete schema current.id)
  return current

/-- Whether a caller may read a record. -/
def isReadable (schema : Schema) (caller : Option Principal) (record : Record) : Bool :=
  (checkAccess schema caller .read record).isOk

/-- Finds the records that a filter selects, without those that the caller may not read. -/
def query (service : Service) (caller : Option Principal) (kind : String)
    (expression : FilterExpression) : Work (List Record) := do
  let schema ← decided (service.registry.authorize kind .query)
  let filter ← decided ((expression.compile schema.columns).mapError .query)
  let records ← storing (Program.askStore (.findMany schema filter))
  caching (service.aside.onFetched schema filter records)
  return records.filter (isReadable schema caller)

/-! ## Requests -/

/-- The written form of a list of records. -/
def recordsToJson (records : List Record) : Json :=
  .array (records.map Record.toJson)

/-- Does what a request asks for. -/
def dispatch (service : Service) (caller : Option Principal) (request : Request) : Work Json :=
  let id := request.id.getD ""
  let body := request.body.getD .null
  match request.operation with
  | .read => Record.toJson <$> service.read caller request.kind id
  | .create => Record.toJson <$> service.create caller request.kind body
  | .update => Record.toJson <$> service.update caller request.kind id body
  | .delete => Record.toJson <$> service.delete caller request.kind id
  | .query => do
    let _ ← decided (service.registry.authorize request.kind .query)
    let expression ← decided (decodeFilter request.body)
    recordsToJson <$> service.query caller request.kind expression

/-- Answers a request. -/
def handle (service : Service) (caller : Option Principal) (request : Request) : Program Response :=
  do return Response.ofOutcome id (← (service.dispatch caller request).run)

end Service

end RecordAccess
