import RecordAccess.Access.Operation
import RecordAccess.Service.Error

/-!
# Requests and responses

A request names an operation and a kind, and may have an id and a body. A response has a status
and a body; an error is answered with its wording, its code and what comes along with it.
-/

namespace RecordAccess

/-- A request as it arrives. -/
structure Request where
  operation : Operation
  kind : String
  id : Option String
  body : Option Json
deriving DecidableEq, Repr

namespace Request

/-- Asks for one record. -/
def read (kind id : String) : Request := ⟨.read, kind, some id, none⟩

/-- Asks to create a record from a payload. -/
def create (kind : String) (body : Json) : Request := ⟨.create, kind, none, some body⟩

/-- Asks to merge a payload into a record. -/
def update (kind id : String) (body : Json) : Request := ⟨.update, kind, some id, some body⟩

/-- Asks to delete a record. -/
def delete (kind id : String) : Request := ⟨.delete, kind, some id, none⟩

/-- Asks for the records that a filter selects. -/
def query (kind : String) (body : Json) : Request := ⟨.query, kind, none, some body⟩

/-- The written form. An id or a body that is not there is left out. -/
def toJson (request : Request) : Json :=
  .object ([("operation", request.operation.toJson), ("kind", .string request.kind)] ++
    (request.id.map fun id => ("id", Json.string id)).toList ++
    (request.body.map fun body => ("body", body)).toList)

/-- Decodes a request. -/
def decode : Decoder Request :=
  Decoder.struct "Request"
    [.required "operation" Operation.decode fun request operation =>
        { request with operation := operation },
      .required "kind" Decoder.text fun request kind => { request with kind := kind },
      .withDefault "id" (Decoder.nullable Decoder.text) fun request id => { request with id := id },
      .withDefault "body" (Decoder.nullable Decoder.json) fun request body =>
        { request with body := body }]
    ⟨.read, "", none, none⟩

end Request

/-- What a request is answered with. -/
structure Response where
  status : Nat
  body : Json
deriving DecidableEq, Repr

namespace Response

/-- Success with a body. -/
def ok (body : Json) : Response := ⟨200, body⟩

/-- The answer to an error. -/
def ofError (error : ServiceError) : Response :=
  ⟨error.status, .object ([("message", .string error.message), ("code", .string error.code)] ++
    (error.data?.map fun data => ("data", data)).toList)⟩

/-- The answer to an outcome, whose success has a written form. -/
def ofOutcome {α : Type} (toJson : α → Json) : Except ServiceError α → Response
  | .ok value => ok (toJson value)
  | .error error => ofError error

/-- Whether the status says success. -/
def isSuccess (response : Response) : Bool :=
  200 ≤ response.status && response.status < 300

/-- The written form. -/
def toJson (response : Response) : Json :=
  .object [("status", .integer response.status), ("body", response.body)]

end Response

end RecordAccess
