import RecordAccess.Access.RoleSet

/-!
# Permissions

A permission names the roles that may read a record and the roles that may write it. An empty
set of roles restricts nobody. A record may carry a permission of its own; a kind may have a
default for the records that carry none.
-/

namespace RecordAccess

/-- What is asked for: to read a record, or to change or remove it. -/
inductive Access where
  | read
  | write
deriving DecidableEq, Repr

/-- The name of an access. -/
def Access.name : Access → String
  | read => "read"
  | write => "write"

/-- The roles that may read and the roles that may write; an empty set means anyone. -/
structure Permission where
  read : RoleSet
  write : RoleSet
deriving DecidableEq, Repr, Inhabited

namespace Permission

/-- Anyone may read and write. -/
def unrestricted : Permission := ⟨.empty, .empty⟩

/-- The same roles for reading and for writing. -/
def restrictedTo (roles : List String) : Permission :=
  ⟨.ofList roles, .ofList roles⟩

/-- The roles that an access asks for. -/
def required (permission : Permission) : Access → RoleSet
  | .read => permission.read
  | .write => permission.write

/-- Whether neither access is restricted. -/
def isUnrestricted (permission : Permission) : Bool :=
  permission.read.isEmpty && permission.write.isEmpty

/-- The written form. -/
def toJson (permission : Permission) : Json :=
  .object [("read", permission.read.toJson), ("write", permission.write.toJson)]

/-- Decodes a permission; a set that is left out is empty. -/
def decode : Decoder Permission :=
  Decoder.struct "Permission"
    [.withDefault "read" RoleSet.decode fun permission roles =>
        { permission with read := roles },
      .withDefault "write" RoleSet.decode fun permission roles =>
        { permission with write := roles }]
    unrestricted

end Permission

end RecordAccess
