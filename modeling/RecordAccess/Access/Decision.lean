import RecordAccess.Access.Permission
import RecordAccess.Access.Principal

/-!
# Access decisions

Whether a caller may read or write, and whether a proposed revision is the current one. The
decisions look at roles and revisions alone, never at the data of a record.
-/

namespace RecordAccess

/-- Why access or a revision is refused. -/
inductive AccessError where
  | permissionDenied
  | revisionRequired
  | revisionConflict (submitted current : Int)
deriving DecidableEq, Repr

/-- The wording of a refusal. -/
def AccessError.message : AccessError → String
  | permissionDenied => "Forbidden: insufficient permissions"
  | revisionRequired => "Revision is required"
  | revisionConflict submitted current =>
    "Revision conflict: submitted " ++ toString submitted ++ ", current " ++ toString current

/-- The permission that counts for a record: its own, else the default of its kind. -/
def effectivePermission (own default : Option Permission) : Option Permission :=
  own <|> default

/-- Whether a caller may have an access. Without a permission, or when it asks for no role,
anyone may; else the caller must hold one of the roles. -/
def canPerform (permission : Option Permission) (caller : Option Principal) (access : Access) :
    Except AccessError Unit :=
  match permission with
  | none => .ok ()
  | some permission =>
    let required := permission.required access
    if required.isEmpty then .ok ()
    else if required.intersects (rolesOf caller) then .ok ()
    else .error .permissionDenied

/-- Whether a proposed revision is the current one. -/
def canMerge (current proposed : Int) : Bool :=
  proposed == current

/-- Checks a proposed revision; zero means that none was given. -/
def checkRevision (current proposed : Int) : Except AccessError Unit :=
  if proposed = 0 then .error .revisionRequired
  else if canMerge current proposed then .ok ()
  else .error (.revisionConflict proposed current)

end RecordAccess
