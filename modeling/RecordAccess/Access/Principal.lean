import RecordAccess.Access.RoleSet

/-!
# Principals

Who acts: a principal has an id and holds roles. A user holds at least the role `user:<id>`. A
caller without a principal is anonymous and holds no role.
-/

namespace RecordAccess

/-- An acting principal. -/
structure Principal where
  id : String
  roles : RoleSet
deriving DecidableEq, Repr, Inhabited

namespace Principal

/-- The role that stands for one user. -/
def ownRole (id : String) : String :=
  "user:" ++ id

/-- A principal without roles. -/
def bare (id : String) : Principal := ⟨id, .empty⟩

/-- A user, holding the role of its own. -/
def user (id : String) : Principal := ⟨id, RoleSet.empty.insert (ownRole id)⟩

/-- The principal with one more role. -/
def withRole (principal : Principal) (role : String) : Principal :=
  { principal with roles := principal.roles.insert role }

/-- The written form. -/
def toJson (principal : Principal) : Json :=
  .object [("id", .string principal.id), ("roles", principal.roles.toJson)]

/-- Decodes a principal; roles that are left out are none. -/
def decode : Decoder Principal :=
  Decoder.struct "Principal"
    [.required "id" Decoder.text fun principal id => { principal with id := id },
      .withDefault "roles" RoleSet.decode fun principal roles => { principal with roles := roles }]
    (bare "")

end Principal

/-- The roles of a caller; an anonymous one holds none. -/
def rolesOf (caller : Option Principal) : RoleSet :=
  (caller.map Principal.roles).getD .empty

end RecordAccess
