import GridAccess.Selection.Grant

/-!
# Deleting

The replicas of a file may be deleted in the order of the catalogue. A member of an archive is no
file of its own and cannot be deleted, and neither can a replica on an unknown storage element.

## Main definitions

- `Selector.forDelete` — the tickets for deleting the replicas of a file
-/

namespace GridAccess

open SelectionError (ofQuery)

namespace Selector

/-- The grant for deleting one replica, if its storage element is known. -/
def deleteGrant? (selector : Selector) (requester : Requester) (file : FileRecord)
    (path : Option LogicalPath) (replica : Replica) : Except SelectionError (Option Grant) := do
  match ← ofQuery (selector.catalogue.element replica.element) with
  | none => return none
  | some element => selector.grant? requester .delete none ⟨file, replica, element, path⟩

/-- The tickets for deleting the replicas of a file. -/
def forDelete (selector : Selector) (requester : Requester) (reference : FileReference) :
    Except SelectionError (List Grant) := do
  match ← ofQuery (selector.catalogue.resolve reference) with
  | none => return []
  | some (file, path) =>
    let replicas ← ofQuery (selector.catalogue.replicas file.guid)
    let grants ← (replicas.filter Replica.isPlain).mapM
      (selector.deleteGrant? requester file path)
    return Grant.firstOfLocations (grants.filterMap id)

end Selector

end GridAccess
