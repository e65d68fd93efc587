import GridAccess.Identity.File
import GridAccess.Name.Entry
import GridAccess.Storage.Element

/-!
# Queries to a catalogue

Files, replicas, names and storage elements are looked up in a catalogue. A catalogue that cannot be
reached fails, which is not the same as finding nothing.

## Main definitions

- `Catalogue` — the queries
- `CatalogueFailure` — a query without an answer
- `LocatedReplica` — a replica with the storage element it lies on
- `Catalogue.locate`, `Catalogue.locateAll` — the storage elements of replicas
-/

namespace GridAccess

/-- Why a query has no answer. -/
structure CatalogueFailure where
  reason : String
  deriving DecidableEq, Repr

/-- The queries to a catalogue. Only distances are known without asking it: an unknown distance is
no failure. -/
structure Catalogue where
  file : Guid → Except CatalogueFailure (Option FileRecord)
  replicas : Guid → Except CatalogueFailure (List Replica)
  paths : Guid → Except CatalogueFailure (List LogicalPath)
  entry : LogicalPath → Except CatalogueFailure (Option CatalogueEntry)
  guidAt : String → Except CatalogueFailure (Option Guid)
  element : ElementNumber → Except CatalogueFailure (Option StorageElement)
  elementNamed : String → Except CatalogueFailure (Option StorageElement)
  elementsTagged : String → Except CatalogueFailure (List StorageElement)
  distance : String → StorageElement → Option Binary64

/-- A replica with the storage element it lies on. -/
structure LocatedReplica where
  replica : Replica
  element : StorageElement
  deriving DecidableEq, Repr

namespace Catalogue

/-- A replica with its storage element, if there is such an element. -/
def locate (catalogue : Catalogue) (replica : Replica) :
    Except CatalogueFailure (Option LocatedReplica) :=
  match catalogue.element replica.element with
  | .ok found => .ok (found.map fun element => ⟨replica, element⟩)
  | .error failure => .error failure

/-- The replicas that lie on a storage element known to the catalogue. -/
def locateAll (catalogue : Catalogue) (replicas : List Replica) :
    Except CatalogueFailure (List LocatedReplica) := do
  let located ← replicas.mapM catalogue.locate
  return located.filterMap id

end Catalogue

def CatalogueFailure.message (failure : CatalogueFailure) : String :=
  s!"catalogue backend failed: {failure.reason}"

end GridAccess
