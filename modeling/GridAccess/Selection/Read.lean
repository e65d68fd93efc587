import GridAccess.Selection.Grant

/-!
# Reading

A file is read from one of its own replicas, nearest first, or as a member of an archive. A member
is granted on the replicas of its archive, if both the member and the archive may be read. Such
grants come last.

## Main definitions

- `Selector.forRead` — the tickets for reading a file
- `Selector.plainGrants` — those for its own replicas
- `Selector.memberGrants` — those for archives that it is a member of
-/

namespace GridAccess

open SelectionError (ofQuery)

/-- A located replica of a file as the target of an envelope. -/
def LocatedReplica.target (located : LocatedReplica) (file : FileRecord)
    (path : Option LogicalPath) : EnvelopeTarget :=
  ⟨file, located.replica, located.element, path⟩

/-- The registered archive that a link leads into. -/
def Catalogue.archiveOf (catalogue : Catalogue) (link : ArchiveLink) :
    Except CatalogueFailure (Option FileRecord) := do
  let container ←
    match link.container with
    | .registered guid => pure (some guid)
    | .location location => catalogue.guidAt location
  match container with
  | some guid => catalogue.file guid
  | none => return none

namespace Selector

/-- The grants for the replicas of a file that are no members of archives, nearest first. -/
def plainGrants (selector : Selector) (requester : Requester) (preferences : ElementPreferences)
    (file : FileRecord) (path : Option LogicalPath) (replicas : List Replica) :
    Except SelectionError (List Grant) := do
  let located ← ofQuery <| selector.catalogue.nearestReplicas (requester.criteria preferences)
    (replicas.filter Replica.isPlain)
  selector.grantAll requester .read none (located.map fun l => l.target file path)

/-- The grants for a member of an archive: those for the replicas of the archive that are no
members of archives themselves. -/
def archiveGrants (selector : Selector) (requester : Requester) (preferences : ElementPreferences)
    (member : FileRecord) (link : ArchiveLink) : Except SelectionError (List Grant) := do
  match ← ofQuery (selector.catalogue.archiveOf link) with
  | none => return []
  | some archive =>
    let paths ← ofQuery (selector.catalogue.paths archive.guid)
    let replicas ← ofQuery (selector.catalogue.replicas archive.guid)
    let located ← ofQuery <|
      selector.catalogue.nearestReplicas (requester.criteria preferences) replicas
    let plain := located.filter fun l => l.replica.isPlain
    selector.grantAll requester .read (some ⟨member.guid, link.member, paths.head?⟩)
      (plain.map fun l => l.target archive paths.head?)

/-- The grants for a replica that is a member of an archive, if reading it is not denied. Its storage
element need not be known. -/
def linkGrants (selector : Selector) (requester : Requester) (preferences : ElementPreferences)
    (file : FileRecord) (replica : Replica) (link : ArchiveLink) :
    Except SelectionError (List Grant) := do
  let known ← ofQuery (selector.catalogue.element replica.element)
  let element := known.getD (.unregistered replica.element)
  match selector.authorization.access requester.principal ⟨file, replica, element, .read⟩ with
  | some _ => return []
  | none => selector.archiveGrants requester preferences file link

/-- The grants for the replicas of a file that are members of archives. -/
def memberGrants (selector : Selector) (requester : Requester) (preferences : ElementPreferences)
    (file : FileRecord) (replicas : List Replica) : Except SelectionError (List Grant) := do
  let grants ← replicas.mapM fun replica =>
    match replica.archiveLink with
    | .ok (some link) => selector.linkGrants requester preferences file replica link
    | _ => .ok []
  return grants.flatten

/-- The tickets for reading a file: first those for its own replicas, then those for archives. -/
def forRead (selector : Selector) (requester : Requester) (preferences : ElementPreferences)
    (reference : FileReference) : Except SelectionError (List Grant) := do
  match ← ofQuery (selector.catalogue.resolve reference) with
  | none => return []
  | some (file, path) =>
    let replicas ← ofQuery (selector.catalogue.replicas file.guid)
    let plain ← selector.plainGrants requester preferences file path replicas
    let members ← selector.memberGrants requester preferences file replicas
    return Grant.firstOfLocations (plain ++ members)

end Selector

end GridAccess
