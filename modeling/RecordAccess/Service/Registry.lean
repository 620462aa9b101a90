import RecordAccess.Service.Error
import RecordAccess.Record.Schema

/-!
# The registry

The kinds that can be asked for, each with its schema and its policy. A kind that is registered
again replaces what was registered before.
-/

namespace RecordAccess

/-- A kind with its schema and its policy. -/
structure Descriptor where
  schema : Schema
  policy : AccessPolicy
deriving DecidableEq, Repr

/-- Descriptors by the name of their kind. -/
structure Registry where
  descriptors : Keyed Descriptor
deriving DecidableEq, Repr

/-- Fails unless the policy of a kind enables an operation. -/
def Descriptor.require (descriptor : Descriptor) (operation : Operation) :
    Except ServiceError Unit :=
  if descriptor.policy.allows operation then .ok ()
  else .error (.operationNotAllowed operation descriptor.schema.kind)

namespace Registry

/-- The registry without kinds. -/
def empty : Registry := ⟨[]⟩

/-- Registers a kind. -/
def register (registry : Registry) (descriptor : Descriptor) : Registry :=
  ⟨registry.descriptors.insert descriptor.schema.kind descriptor⟩

/-- The descriptor of a kind. -/
def get? (registry : Registry) (kind : String) : Option Descriptor :=
  registry.descriptors.find? kind

/-- The descriptor of a kind, or the error that there is none. -/
def find (registry : Registry) (kind : String) : Except ServiceError Descriptor :=
  match registry.get? kind with
  | some descriptor => .ok descriptor
  | none => .error (.unknownKind kind)

/-- The schema of a kind for an operation: the kind must be known and the operation enabled. -/
def authorize (registry : Registry) (kind : String) (operation : Operation) :
    Except ServiceError Schema := do
  let descriptor ← registry.find kind
  descriptor.require operation
  return descriptor.schema

/-- The names of the kinds, in ascending order. -/
def kinds (registry : Registry) : List String :=
  registry.descriptors.keys.mergeSort fun a b => a ≤ b

/-- How many kinds there are. -/
def size (registry : Registry) : Nat :=
  registry.descriptors.length

end Registry

end RecordAccess
