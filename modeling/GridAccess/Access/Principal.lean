import GridAccess.Identity.Permissions

/-!
# Principals

A principal is an account that asks for access. It holds roles, one of which is its own name, and
connects from a site.

## Main definitions

- `Principal` — an account with its roles and its site
- `Principal.account`, `Principal.withRole` — building a principal
- `Principal.classFor` — which permissions apply to it
-/

namespace GridAccess

/-- An account that asks for access, with its roles in ascending order. -/
structure Principal where
  name : String
  roles : List String
  site : Option String
  deriving DecidableEq, Repr

namespace Principal

/-- The role that lifts all restrictions. -/
def adminRole : String := "admin"

/-- Put a role into an ascending list, unless it is there. -/
def insertRole (role : String) : List String → List String
  | [] => [role]
  | held :: roles =>
    if role < held then role :: held :: roles
    else if role = held then held :: roles
    else held :: insertRole role roles

/-- An account whose only role is its own name. -/
def account (name : String) : Principal :=
  ⟨name, [name], none⟩

def withRole (principal : Principal) (role : String) : Principal :=
  { principal with roles := insertRole role principal.roles }

def atSite (principal : Principal) (site : String) : Principal :=
  { principal with site := some site }

def hasRole (principal : Principal) (role : String) : Bool :=
  principal.roles.contains role

/-- Whether a principal holds the role that lifts all restrictions. -/
def isAdmin (principal : Principal) : Bool :=
  principal.hasRole adminRole

/-- Whose permissions apply to a principal: the owner's if it has that name, the group's if it
holds the role of that name. -/
def classFor (principal : Principal) (owner group : String) : PermissionClass :=
  if principal.name = owner then .owner
  else if principal.hasRole group then .group
  else .other

end Principal

end GridAccess
