import GridAccess.Catalogue.Ascending
import GridAccess.Catalogue.Query

/-!
# Inventories

An inventory is a catalogue held in memory. It answers every query.

## Main definitions

- `Inventory` — files, replicas, names, storage elements and distances
- `Inventory.putFile`, `Inventory.addReplica`, `Inventory.removeReplicas` — the changes of files
- `Inventory.putEntry`, `Inventory.putElement`, `Inventory.setDistance` — the other changes
- `Inventory.replicasOf`, `Inventory.pathsOf`, `Inventory.distance` — answers
- `Inventory.catalogue` — the inventory as a catalogue

## Main statements

- `Inventory.mem_replicasOf` — the replicas of a file are those held with its identifier
- `Inventory.replicasOf_removeReplicas_of_ne` — removing replicas at a location leaves other files alone
-/

namespace GridAccess

open Text

/-- A catalogue held in memory: one record for each identifier, replicas in the order in which they
were added, names ascending by path, storage elements ascending by number, and distances from
sites to sites. -/
structure Inventory where
  files : List FileRecord
  replicas : List Replica
  entries : List CatalogueEntry
  elements : List StorageElement
  distances : List ((List Char × List Char) × Binary64)

namespace Inventory

def empty : Inventory := ⟨[], [], [], [], []⟩

/-! ## Answers -/

def file? (inventory : Inventory) (guid : Guid) : Option FileRecord :=
  inventory.files.find? fun file => file.guid = guid

/-- The replicas of a file in the order in which they were added. -/
def replicasOf (inventory : Inventory) (guid : Guid) : List Replica :=
  inventory.replicas.filter fun replica => replica.guid = guid

/-- The paths that name a file, in ascending order. -/
def pathsOf (inventory : Inventory) (guid : Guid) : List LogicalPath :=
  (inventory.entries.filter fun entry => entry.guid = some guid).map CatalogueEntry.path

/-- What a path is bound to. -/
def entry? (inventory : Inventory) (path : LogicalPath) : Option CatalogueEntry :=
  inventory.entries.find? fun entry => entry.path = path

/-- The file that has a replica at a location. If several files have one there, any of them would be an
answer; here it is the one whose replica was added first. -/
def guidAt? (inventory : Inventory) (location : String) : Option Guid :=
  (inventory.replicas.find? fun replica => replica.location = location).map Replica.guid

def element? (inventory : Inventory) (number : ElementNumber) : Option StorageElement :=
  inventory.elements.find? fun element => element.number = number

def elementNamed? (inventory : Inventory) (name : String) : Option StorageElement :=
  inventory.elements.find? fun element => element.isNamed name

def elementsTagged (inventory : Inventory) (tag : String) : List StorageElement :=
  inventory.elements.filter fun element => element.hasTag tag

/-- The distance between two sites for which none was set. It is one. -/
def standardDistance : Binary64 := ⟨0x3FF0000000000000⟩

/-- The sites that a distance is looked up by. -/
def distanceKey (site elementSite : String) : List Char × List Char :=
  (uppercase site.toList, uppercase elementSite.toList)

/-- The distance from a site to a storage element. It is zero at the same site. -/
def distance (inventory : Inventory) (site : String) (element : StorageElement) : Binary64 :=
  if eqIgnoringCase element.site.toList site.toList then .zero
  else (inventory.distances.lookup (distanceKey site element.site)).getD standardDistance

/-- The inventory as a catalogue, which never fails. -/
def catalogue (inventory : Inventory) : Catalogue where
  file guid := .ok (inventory.file? guid)
  replicas guid := .ok (inventory.replicasOf guid)
  paths guid := .ok (inventory.pathsOf guid)
  entry path := .ok (inventory.entry? path)
  guidAt location := .ok (inventory.guidAt? location)
  element number := .ok (inventory.element? number)
  elementNamed name := .ok (inventory.elementNamed? name)
  elementsTagged tag := .ok (inventory.elementsTagged tag)
  distance site element := some (inventory.distance site element)

/-! ## Changes -/

/-- Put a record into the place of the one with its identifier, or at the end. -/
def putRecord (file : FileRecord) : List FileRecord → List FileRecord
  | [] => [file]
  | other :: rest => if other.guid = file.guid then file :: rest else other :: putRecord file rest

/-- Register a file, instead of one with the same identifier. Says whether there was none. -/
def putFile (inventory : Inventory) (file : FileRecord) : Bool × Inventory :=
  ((inventory.file? file.guid).isNone,
    { inventory with files := putRecord file inventory.files })

/-- Add a replica at the end, unless it is there. Says whether it was added. -/
def addReplica (inventory : Inventory) (replica : Replica) : Bool × Inventory :=
  if replica ∈ inventory.replicas then (false, inventory)
  else (true, { inventory with replicas := inventory.replicas ++ [replica] })

/-- Remove the replicas of a file at a location. Says whether there was one. -/
def removeReplicas (inventory : Inventory) (guid : Guid) (location : String) : Bool × Inventory :=
  let (removed, kept) := inventory.replicas.partition fun replica =>
    replica.guid = guid && replica.location = location
  (!removed.isEmpty, { inventory with replicas := kept })

/-- Bind a path, whatever it was bound to. -/
def putEntry (inventory : Inventory) (entry : CatalogueEntry) : Inventory :=
  { inventory with
    entries := Ascending.put (fun e => e.path.chars) entry inventory.entries }

/-- Register a storage element, instead of one with the same number. -/
def putElement (inventory : Inventory) (element : StorageElement) : Inventory :=
  { inventory with
    elements := Ascending.put StorageElement.number element inventory.elements }

/-- Set the distance from a site to a site. The case of letters is ignored. -/
def setDistance (inventory : Inventory) (site elementSite : String) (distance : Binary64) :
    Inventory :=
  { inventory with
    distances := (distanceKey site elementSite, distance) :: inventory.distances }

/-- Bind the unbound ones of some paths to directories of one owner, open to others for reading. -/
def putDirectories (owner : String) (inventory : Inventory) (paths : List LogicalPath) :
    Inventory :=
  paths.foldl (fun held path =>
    if (held.entry? path).isSome then held
    else held.putEntry (.directory path owner owner .standard)) inventory

def makeDirectories (inventory : Inventory) (path : LogicalPath) (owner : String) : Inventory :=
  putDirectories owner inventory path.ancestors

/-- The replicas of a file are those held with its identifier. -/
theorem mem_replicasOf {inventory : Inventory} {guid : Guid} {replica : Replica} :
    replica ∈ inventory.replicasOf guid ↔
      replica ∈ inventory.replicas ∧ replica.guid = guid := by
  simp [replicasOf]

/-- Removing replicas of a file at a location keeps all others. -/
theorem removeReplicas_eq (inventory : Inventory) (guid : Guid) (location : String) :
    inventory.removeReplicas guid location =
      (decide (∃ replica ∈ inventory.replicasOf guid, replica.location = location),
        { inventory with
          replicas := inventory.replicas.filter fun replica =>
            ¬(replica.guid = guid ∧ replica.location = location) }) := by
  have hsome : (!(inventory.replicas.filter fun replica =>
      replica.guid = guid && replica.location = location).isEmpty) =
      decide (∃ replica ∈ inventory.replicasOf guid, replica.location = location) := by
    rw [Bool.eq_iff_iff]
    simp [mem_replicasOf, and_assoc]
  rw [removeReplicas, List.partition_eq_filter_filter]
  simp only [hsome, Prod.mk.injEq, Inventory.mk.injEq, true_and, and_true]
  apply List.filter_congr
  intro replica _
  simp

/-- Removing replicas of one file leaves the others alone. -/
theorem replicasOf_removeReplicas_of_ne {inventory : Inventory} {guid other : Guid}
    (h : other ≠ guid) (location : String) :
    (inventory.removeReplicas guid location).2.replicasOf other =
      inventory.replicasOf other := by
  rw [removeReplicas_eq, replicasOf, replicasOf, List.filter_filter]
  apply List.filter_congr
  intro replica _
  by_cases hother : replica.guid = other
  · simp [hother, h]
  · simp [hother]

/-- The records with other identifiers stay, and no others. -/
theorem mem_putRecord_iff {file other : FileRecord} {files : List FileRecord}
    (h : files.Pairwise fun a b => a.guid ≠ b.guid) :
    other ∈ putRecord file files ↔ other = file ∨ other ∈ files ∧ other.guid ≠ file.guid := by
  induction files with
  | nil => simp [putRecord]
  | cons first rest ih =>
    obtain ⟨hfirst, hrest⟩ := List.pairwise_cons.1 h
    unfold putRecord
    split
    · next hsame =>
      have hkept : other ∈ rest → other.guid ≠ file.guid := fun hother =>
        hsame ▸ (hfirst other hother).symm
      have hgone : ¬(other = first ∧ other.guid ≠ file.guid) := by
        rintro ⟨rfl, hother⟩
        exact hother hsame
      rw [List.mem_cons, List.mem_cons, or_and_right, and_iff_left_of_imp hkept,
        or_iff_right hgone]
    · next hne =>
      have hkept : other = first → other.guid ≠ file.guid := by
        rintro rfl
        exact hne
      rw [List.mem_cons, List.mem_cons, or_and_right, and_iff_left_of_imp hkept, ih hrest]
      exact or_left_comm

/-- Putting a record keeps the identifiers apart. -/
theorem pairwise_putRecord (file : FileRecord) {files : List FileRecord}
    (h : files.Pairwise fun a b => a.guid ≠ b.guid) :
    (putRecord file files).Pairwise fun a b => a.guid ≠ b.guid := by
  induction files with
  | nil => exact List.pairwise_singleton _ _
  | cons first rest ih =>
    obtain ⟨hfirst, hrest⟩ := List.pairwise_cons.1 h
    unfold putRecord
    split
    · next hsame =>
      exact List.pairwise_cons.2 ⟨fun other hother => hsame ▸ hfirst other hother, hrest⟩
    · next hne =>
      refine List.pairwise_cons.2 ⟨?_, ih hrest⟩
      intro other hother
      rcases (mem_putRecord_iff hrest).1 hother with rfl | ⟨hother, -⟩
      · exact hne
      · exact hfirst other hother

end Inventory

end GridAccess
