import GridAccess.Identity.Guid
import GridAccess.Text.Search

/-!
# Replicas and archive members

A replica is one copy of a file on one storage element. Its location may be a link into an
archive: then the bytes are those of a member of the archive, and the archive is either another
registered file or the file at some location.

## Main definitions

- `Replica` — a copy of a file
- `ArchiveLink` — the archive and the name of the member
- `ArchiveLink.parse` — the link a location stands for, if it is one
-/

namespace GridAccess

open Text

/-- The number of a storage element in the catalogue. -/
abbrev ElementNumber := UInt32

/-- A copy of a file on a storage element. -/
structure Replica where
  guid : Guid
  element : ElementNumber
  location : String
  deriving DecidableEq, Repr

/-- Where an archive is found. -/
inductive ArchiveContainer where
  | registered (guid : Guid)
  | location (location : String)
  deriving DecidableEq, Repr

/-- A member of an archive. -/
structure ArchiveLink where
  container : ArchiveContainer
  member : String
  deriving DecidableEq, Repr

/-- Why a location that looks like a link into an archive is none. -/
inductive LinkError where
  | missingMember (location : String)
  | invalidGuid
  deriving DecidableEq, Repr

namespace ArchiveLink

/-- What stands between the archive and the name of the member. -/
def memberMark : List Char := "?ZIP=".toList

/-- What stands before the identifier of a registered archive. -/
def guidScheme : List Char := "guid://".toList

def firstParameter (query : List Char) : List Char :=
  query.takeWhile (· != '&')

/-- The link a location stands for. A location without a member mark is none, unless it starts
with the scheme of identifiers, which always has to name a member. -/
def parse (location : String) : Except LinkError (Option ArchiveLink) :=
  let text := location.toList
  let (target, member) :=
    match cut memberMark text with
    | some (target, query) => (target, some (firstParameter query))
    | none => (text, none)
  match stripStart? guidScheme target, member with
  | some _, none => .error (.missingMember location)
  | none, none => .ok none
  | _, some [] => .error (.missingMember location)
  | none, some member => .ok (some ⟨.location (String.ofList target), String.ofList member⟩)
  | some rest, some member =>
    match Guid.parse (String.ofList (rest.dropWhile (· == '/'))) with
    | .ok guid => .ok (some ⟨.registered guid, String.ofList member⟩)
    | .error _ => .error .invalidGuid

end ArchiveLink

/-- The link a replica stands for. -/
def Replica.archiveLink (replica : Replica) : Except LinkError (Option ArchiveLink) :=
  ArchiveLink.parse replica.location

/-- Whether a replica is a file of its own, not a member of an archive. -/
def Replica.isPlain (replica : Replica) : Bool :=
  match replica.archiveLink with
  | .ok none => true
  | _ => false

/-- The wording of the error, where it has one. -/
def LinkError.message : LinkError → Option String
  | .missingMember location => some s!"archive link '{location}' does not name a member"
  | .invalidGuid => none

end GridAccess
