import RecordAccess.Proofs.Registration

/-!
# What a caller may do

Whether a caller may have an access to a record, as a proposition. It depends on the permission of
the record and on the default of its kind, and on nothing else that is stored.
-/

namespace RecordAccess

/-- A caller may have an access to a record: by the permission of the record, or else by the default
of its kind. -/
def Schema.Permits (schema : Schema) (caller : Option Principal) (access : Access)
    (record : Record) : Prop :=
  canPerform (effectivePermission record.permission schema.defaultPermission) caller access = .ok ()

namespace Schema

variable {schema : Schema} {caller : Option Principal} {access : Access} {record other : Record}

theorem isOk_canPerform :
    (canPerform (effectivePermission record.permission schema.defaultPermission) caller access).isOk =
      true ↔ schema.Permits caller access record := by
  unfold Permits
  cases canPerform (effectivePermission record.permission schema.defaultPermission) caller access with
  | ok => exact ⟨fun _ => rfl, fun _ => rfl⟩
  | error => exact ⟨nofun, nofun⟩

instance : Decidable (schema.Permits caller access record) :=
  decidable_of_iff _ isOk_canPerform

/-- Records with the same permission are open to the same callers. -/
theorem permits_congr (same : record.permission = other.permission) :
    schema.Permits caller access record ↔ schema.Permits caller access other := by
  rw [Permits, same, Permits]

theorem checkAccess_eq_ok :
    Service.checkAccess schema caller access record = .ok () ↔
      schema.Permits caller access record := by
  unfold Service.checkAccess Permits
  cases canPerform (effectivePermission record.permission schema.defaultPermission) caller access with
  | ok => exact ⟨fun _ => rfl, fun _ => rfl⟩
  | error => exact ⟨nofun, nofun⟩

/-- A refusal tells nothing of the record. -/
theorem checkAccess_of_not_permits (refused : ¬schema.Permits caller access record) :
    Service.checkAccess schema caller access record = .error .permissionDenied := by
  unfold Service.checkAccess
  unfold Permits at refused
  generalize effectivePermission record.permission schema.defaultPermission = permission at refused ⊢
  cases permission with
  | none => exact absurd rfl refused
  | some permission =>
    rw [canPerform] at refused ⊢
    by_cases free : (permission.required access).isEmpty = true
    · exact absurd (if_pos free) refused
    · rw [if_neg free] at refused ⊢
      by_cases held : (permission.required access).intersects (rolesOf caller) = true
      · exact absurd (if_pos held) refused
      · rw [if_neg held]
        rfl

theorem isReadable_eq_true :
    Service.isReadable schema caller record = true ↔ schema.Permits caller .read record := by
  rw [← checkAccess_eq_ok, Service.isReadable]
  cases Service.checkAccess schema caller .read record with
  | ok => exact ⟨fun _ => rfl, fun _ => rfl⟩
  | error => exact ⟨nofun, nofun⟩

end Schema

/-- A caller may have an access to a record of a kind: by the permission of the record, or else by the
default that the kind is registered with. -/
def Registry.Permits (registry : Registry) (kind : String) (caller : Option Principal)
    (access : Access) (record : Record) : Prop :=
  canPerform (effectivePermission record.permission
    ((registry.get? kind).bind fun descriptor => descriptor.schema.defaultPermission)) caller
    access = .ok ()

/-- What a registry says of a kind that it authorizes is what the schema says. -/
theorem Registry.permits_of_authorize {registry : Registry} {kind : String} {operation : Operation}
    {schema : Schema} (granted : registry.authorize kind operation = .ok schema)
    {caller : Option Principal} {access : Access} {record : Record} :
    registry.Permits kind caller access record ↔ schema.Permits caller access record := by
  obtain ⟨descriptor, known, rfl⟩ := get?_of_authorize granted
  rw [Permits, known, Schema.Permits, Option.bind_some]

end RecordAccess
