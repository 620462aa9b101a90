import RecordAccess.Proofs.JoinedTexts
import RecordAccess.Service.Dispatch

/-!
# Registered kinds

A registry is built by registering kinds one after another, so a kind is known under the name that
its own schema gives. What a registry authorizes for a name is then always the schema of that name.
If no name of a kind has a colon, the keys of the cache tell all records apart.
-/

namespace RecordAccess

/-- A registry that was built by registering kinds. -/
def Registry.IsBuilt (registry : Registry) : Prop :=
  ∃ descriptors : List Descriptor, registry = descriptors.foldl Registry.register .empty

namespace Registry

theorem authorize_eq (registry : Registry) (kind : String) (operation : Operation) :
    registry.authorize kind operation =
      match registry.get? kind with
      | none => .error (.unknownKind kind)
      | some descriptor =>
        if descriptor.policy.allows operation then .ok descriptor.schema
        else .error (.operationNotAllowed operation descriptor.schema.kind) := by
  unfold authorize find Descriptor.require
  cases registry.get? kind with
  | none => rfl
  | some descriptor =>
    change Except.bind (if descriptor.policy.allows operation = true then .ok () else .error _)
      (fun _ => .ok descriptor.schema) = if descriptor.policy.allows operation = true then _ else _
    split <;> rfl

/-- What is authorized is the schema of a registered kind. -/
theorem get?_of_authorize {registry : Registry} {kind : String} {operation : Operation}
    {schema : Schema} (granted : registry.authorize kind operation = .ok schema) :
    ∃ descriptor, registry.get? kind = some descriptor ∧ descriptor.schema = schema := by
  rw [authorize_eq] at granted
  split at granted
  · cases granted
  · next descriptor known =>
    split at granted
    · exact ⟨descriptor, known, Except.ok.inj granted⟩
    · cases granted

theorem kind_of_get?_foldl {descriptors : List Descriptor} {registry : Registry}
    (correct : ∀ kind descriptor, registry.get? kind = some descriptor →
      descriptor.schema.kind = kind)
    {kind : String} {descriptor : Descriptor}
    (known : (descriptors.foldl register registry).get? kind = some descriptor) :
    descriptor.schema.kind = kind := by
  induction descriptors generalizing registry with
  | nil => exact correct kind descriptor known
  | cons first rest ih =>
    refine ih (fun kind descriptor known => ?_) known
    by_cases same : first.schema.kind = kind
    · subst same
      rw [register, get?, Keyed.find?_insert_self] at known
      rw [← Option.some.inj known]
    · rw [register, get?, Keyed.find?_insert_of_ne _ _ same] at known
      exact correct kind descriptor known

/-- A kind is registered under the name in its schema. -/
theorem IsBuilt.kind_eq {registry : Registry} (built : registry.IsBuilt) {kind : String}
    {operation : Operation} {schema : Schema}
    (granted : registry.authorize kind operation = .ok schema) : schema.kind = kind := by
  obtain ⟨descriptors, rfl⟩ := built
  obtain ⟨descriptor, known, rfl⟩ := get?_of_authorize granted
  refine kind_of_get?_foldl (fun _ _ known => ?_) known
  simp [get?, empty] at known

/-- What is authorized under the name of a registered kind is the schema that was registered. -/
theorem IsBuilt.schema_eq {registry : Registry} (built : registry.IsBuilt) {name : String}
    {operation : Operation} {schema : Schema} {descriptor : Descriptor}
    (known : registry.get? schema.kind = some descriptor)
    (granted : registry.authorize name operation = .ok schema) : schema = descriptor.schema := by
  obtain ⟨other, alsoKnown, rfl⟩ := get?_of_authorize granted
  rw [built.kind_eq granted, alsoKnown] at known
  rw [Option.some.inj known]

end Registry

/-! ## Keys of the cache -/

/-- No kind has a colon in its name. -/
def Registry.IsColonFree (registry : Registry) : Prop :=
  ∀ kind descriptor, registry.get? kind = some descriptor → ':' ∉ kind.toList

/-- Two records have the same key only if they have the same kind and the same id. -/
theorem cacheKey_inj {kind other id otherId : String} (plain : ':' ∉ kind.toList)
    (otherPlain : ':' ∉ other.toList)
    (same : Record.cacheKey kind id = Record.cacheKey other otherId) :
    kind = other ∧ id = otherId := by
  have lists : kind.toList ++ ':' :: id.toList = other.toList ++ ':' :: otherId.toList := by
    simpa [Record.cacheKey, String.toList_append] using congrArg String.toList same
  obtain ⟨kinds, ids⟩ := eq_of_append_cons plain otherPlain lists
  exact ⟨String.ext kinds, String.ext ids⟩

/-- A schema that a service works with. -/
def Service.Serves (service : Service) (schema : Schema) : Prop :=
  ∃ kind operation, service.registry.authorize kind operation = .ok schema

/-- The kind of a schema that a service works with has no colon in its name. -/
theorem Service.Serves.colonFree {service : Service} {schema : Schema}
    (served : service.Serves schema) (built : service.registry.IsBuilt)
    (colonFree : service.registry.IsColonFree) : ':' ∉ schema.kind.toList := by
  obtain ⟨kind, operation, granted⟩ := served
  obtain ⟨descriptor, known, -⟩ := Registry.get?_of_authorize granted
  rw [built.kind_eq granted]
  exact colonFree kind descriptor known

/-- A service works with one schema for each kind. -/
theorem Service.Serves.eq_of_kind_eq {service : Service} {schema other : Schema}
    (served : service.Serves schema) (otherServed : service.Serves other)
    (built : service.registry.IsBuilt) (same : schema.kind = other.kind) : schema = other := by
  obtain ⟨kind, operation, granted⟩ := served
  obtain ⟨otherKind, otherOperation, otherGranted⟩ := otherServed
  obtain ⟨descriptor, known, rfl⟩ := Registry.get?_of_authorize otherGranted
  refine built.schema_eq ?_ granted
  rw [same, built.kind_eq otherGranted]
  exact known

/-! ## A service of one kind -/

/-- Notes have a title and carry revisions. -/
def Schema.note : Schema := ((Schema.ofKind "note").addColumn "title").withRevisions

/-- The service at which notes are registered, beside a cache. -/
def Service.notes : Service := ⟨Registry.empty.register ⟨.note, .all⟩, ⟨true⟩⟩

theorem Service.isBuilt_notes : Service.notes.registry.IsBuilt := ⟨[⟨.note, .all⟩], rfl⟩

theorem Service.isColonFree_notes : Service.notes.registry.IsColonFree := by
  intro kind descriptor known
  change (if "note" = kind then some _ else none) = some descriptor at known
  split at known
  · next same =>
    subst same
    decide
  · cases known

end RecordAccess
