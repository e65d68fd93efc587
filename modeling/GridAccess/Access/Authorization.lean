import GridAccess.Access.Kind
import GridAccess.Access.Principal
import GridAccess.Identity.File
import GridAccess.Name.Entry
import GridAccess.Storage.Element

/-!
# Authorization

Whether a principal may access one replica, and whether it may create entries in a directory. A
denial is a value with a cause: who asks skips the replica and goes on.

## Main definitions

- `AccessRequest` — one replica of a file on an element, and what is to be done with it
- `Denial` — the causes of a denial, with their wording in `Denial.message`
- `Authorization` — a pair of decisions
- `catalogueAuthorization` — decisions by ownership, permission bits and restrictions of elements

## Main statements

- `catalogueAuthorization_access_of_foreign` — a replica of another file is denied to everyone
-/

namespace GridAccess

/-- Everything known about one access asked for. -/
structure AccessRequest where
  file : FileRecord
  replica : Replica
  element : StorageElement
  kind : AccessKind

/-- Why an access is denied. -/
inductive Denial where
  | foreignReplica (location : String) (guid : Guid)
  | expired (guid : Guid)
  | noClock (guid : Guid)
  | cannotRead (user : String) (guid : Guid)
  | cannotReadFrom (user element : String)
  | cannotWrite (user : String) (guid : Guid)
  | cannotWriteTo (user element : String)
  | notOwner (user : String) (guid : Guid)
  | notDirectory (path : LogicalPath)
  | cannotCreateIn (user : String) (path : LogicalPath)
  | other (reason : String)
  deriving DecidableEq

/-- The decisions asked for during a selection. -/
structure Authorization where
  access : Principal → AccessRequest → Option Denial
  create : Principal → CatalogueEntry → Option Denial

/-- Whether a file may be read at some time. A file with an expiry cannot be read without a
clock. -/
def checkExpiry (clock : Option UInt64) (file : FileRecord) : Option Denial :=
  match clock with
  | some now => if file.isExpired now then some (.expired file.guid) else none
  | none => if file.expires.isSome then some (.noClock file.guid) else none

/-- The conditions on the kind of access, for principals that are bound by them. -/
def checkKind (clock : Option UInt64) (principal : Principal) (request : AccessRequest) :
    Option Denial :=
  let file := request.file
  let who := principal.classFor file.owner file.group
  match request.kind with
  | .read =>
    match checkExpiry clock file with
    | some denial => some denial
    | none =>
      if !file.permissions.allows who Permissions.readBit then
        some (.cannotRead principal.name file.guid)
      else if !request.element.admitsReader principal.name then
        some (.cannotReadFrom principal.name request.element.name)
      else none
  | .write =>
    if !file.permissions.allows who Permissions.writeBit then
      some (.cannotWrite principal.name file.guid)
    else if !request.element.admitsWriter principal.name then
      some (.cannotWriteTo principal.name request.element.name)
    else none
  | .delete =>
    if file.owner ≠ principal.name then some (.notOwner principal.name file.guid) else none

/-- The decision about one replica. An administrator is bound only by the replica having to belong
to the file. -/
def checkAccess (clock : Option UInt64) (principal : Principal) (request : AccessRequest) :
    Option Denial :=
  if request.replica.guid ≠ request.file.guid then
    some (.foreignReplica request.replica.location request.file.guid)
  else if principal.isAdmin then none
  else checkKind clock principal request

/-- The decision about new entries below `parent`. An administrator is not bound by it. -/
def checkCreate (principal : Principal) (parent : CatalogueEntry) : Option Denial :=
  if principal.isAdmin then none
  else if !parent.isDirectory then some (.notDirectory parent.path)
  else if parent.permissions.allows (principal.classFor parent.owner parent.group)
      Permissions.writeBit then none
  else some (.cannotCreateIn principal.name parent.path)

/-- Decisions by what the catalogue says, at the time shown by a clock, or without one. -/
def catalogueAuthorization (clock : Option UInt64) : Authorization where
  access := checkAccess clock
  create := checkCreate

def Denial.message : Denial → String
  | .foreignReplica location guid => s!"replica {location} does not belong to {guid.text}"
  | .expired guid => s!"{guid.text} has expired"
  | .noClock guid => s!"cannot check expiry of {guid.text} without a system clock"
  | .cannotRead user guid => s!"{user} is not allowed to read {guid.text}"
  | .cannotReadFrom user element => s!"{user} is not allowed to read from {element}"
  | .cannotWrite user guid => s!"{user} is not allowed to write {guid.text}"
  | .cannotWriteTo user element => s!"{user} is not allowed to write to {element}"
  | .notOwner user guid => s!"{user} does not own {guid.text} and cannot delete it"
  | .notDirectory path => s!"{path.text} is not a directory"
  | .cannotCreateIn user path => s!"{user} is not allowed to write into {path.text}"
  | .other reason => reason

/-- A replica of another file is denied to everyone, administrators included. -/
theorem catalogueAuthorization_access_of_foreign (clock : Option UInt64) (principal : Principal)
    {request : AccessRequest} (h : request.replica.guid ≠ request.file.guid) :
    (catalogueAuthorization clock).access principal request =
      some (.foreignReplica request.replica.location request.file.guid) := by
  simp [catalogueAuthorization, checkAccess, h]

end GridAccess
