import GridAccess.Proofs.Selection.Archive
import GridAccess.Selection.Delete

/-!
# The tickets for deleting a file

The replicas of a file are deleted in the order of the catalogue. A replica may be deleted if it is
a file of its own on a known storage element, is not denied, and its ticket can be made. One ticket
is granted for each location to transfer, and where files are addressed by path, replicas with
different locations of their own share one: only the first of them can be deleted.

## Main definitions

- `Selector.deletion?` — the grant for deleting one replica
- `Selector.Deletes` — a grant for deleting a replica that may be deleted
- `Selector.IsFirstDeletion` — no replica before it has the same location to transfer

## Main statements

- `Grant.mem_firstOfLocations` — which grants stay if each location is granted once
- `Selector.yields_forDelete` — what is granted, as one list
- `forDelete_tickets` — the tickets for deleting a file
- `deletable_replica_without_ticket` — a replica that may be deleted and is left out
-/

namespace GridAccess

open Text

/-- The first grants of their locations are those behind others with other locations. -/
theorem Grant.mem_firstOfLocations {grants : List Grant} {grant : Grant} :
    grant ∈ firstOfLocations grants ↔ ∃ front back, grants = front ++ grant :: back ∧
      ∀ earlier ∈ front, earlier.location ≠ grant.location := by
  induction grants with
  | nil => simp [firstOfLocations]
  | cons first rest ih =>
    rw [firstOfLocations, List.mem_cons, List.mem_filter, decide_eq_true_eq, ih]
    constructor
    · rintro (rfl | ⟨⟨front, back, rfl, hfront⟩, hne⟩)
      · exact ⟨[], rest, rfl, by simp⟩
      · refine ⟨first :: front, back, rfl, List.forall_mem_cons.2 ⟨Ne.symm hne, hfront⟩⟩
    · rintro ⟨front, back, hgrants, hfront⟩
      cases front with
      | nil =>
        cases hgrants
        exact Or.inl rfl
      | cons other front =>
        cases hgrants
        obtain ⟨hfirst, hrest⟩ := List.forall_mem_cons.1 hfront
        exact Or.inr ⟨⟨front, back, rfl, hrest⟩, Ne.symm hfirst⟩

namespace Selector

variable {selector : Selector} {inventory : Inventory} {requester : Requester}
  {reference : FileReference} {file : FileRecord} {path : Option LogicalPath} {grant : Grant}

/-- The grant for deleting one replica, if it is a file of its own on a known storage element, is
not denied, and its ticket can be made. -/
def deletion? (selector : Selector) (inventory : Inventory) (requester : Requester)
    (file : FileRecord) (path : Option LogicalPath) (replica : Replica) : Option Grant :=
  if replica.isPlain then
    (inventory.element? replica.element).bind fun element =>
      if selector.permits requester .delete ⟨file, replica, element, path⟩ then
        selector.seal? requester .delete none ⟨file, replica, element, path⟩
      else none
  else none

/-- A grant for deleting a replica of a file that may be deleted. -/
structure Deletes (selector : Selector) (inventory : Inventory) (requester : Requester)
    (file : FileRecord) (path : Option LogicalPath) (grant : Grant) : Prop where
  mem_replicas : grant.replica ∈ inventory.replicasOf file.guid
  archiveLink : grant.replica.archiveLink = .ok none
  element : inventory.element? grant.replica.element = some grant.element
  permitted : selector.authorization.access requester.principal
    ⟨file, grant.replica, grant.element, .delete⟩ = none
  sealed : selector.seal? requester .delete none ⟨file, grant.replica, grant.element, path⟩ =
    some grant

theorem deletion?_eq_some_iff {replica : Replica} :
    selector.deletion? inventory requester file path replica = some grant ↔
      grant.replica = replica ∧ grant.replica.archiveLink = .ok none ∧
      inventory.element? grant.replica.element = some grant.element ∧
      selector.authorization.access requester.principal
        ⟨file, grant.replica, grant.element, .delete⟩ = none ∧
      selector.seal? requester .delete none ⟨file, grant.replica, grant.element, path⟩ =
        some grant := by
  rw [deletion?]
  constructor
  · intro h
    split at h
    · next hplain =>
      obtain ⟨element, helement, hsealed⟩ := Option.bind_eq_some_iff.1 h
      split at hsealed
      · next hpermits =>
        obtain ⟨rfl, rfl, -, -⟩ := id (seal?_eq_some_iff.1 hsealed)
        exact ⟨rfl, Replica.isPlain_iff.1 hplain, helement, permits_eq_true_iff.1 hpermits, hsealed⟩
      · cases hsealed
    · cases h
  · rintro ⟨rfl, hlink, helement, hpermitted, hsealed⟩
    have hpermits : selector.permits requester .delete
        ⟨file, grant.replica, grant.element, path⟩ = true :=
      permits_eq_true_iff.2 hpermitted
    rw [if_pos (Replica.isPlain_iff.2 hlink), helement, Option.bind_some, if_pos hpermits, hsealed]

/-- The replicas that may be deleted are those that give a grant. -/
theorem deletes_iff : selector.Deletes inventory requester file path grant ↔
    grant.replica ∈ inventory.replicasOf file.guid ∧
      selector.deletion? inventory requester file path grant.replica = some grant := by
  rw [deletion?_eq_some_iff]
  constructor
  · rintro ⟨hmem, hlink, helement, hpermitted, hsealed⟩
    exact ⟨hmem, rfl, hlink, helement, hpermitted, hsealed⟩
  · rintro ⟨hmem, -, hlink, helement, hpermitted, hsealed⟩
    exact ⟨hmem, hlink, helement, hpermitted, hsealed⟩

/-- What is granted for deleting: the first grant of each location. -/
theorem yields_forDelete (selector : Selector) (requester : Requester)
    (hresolves : inventory.Resolves reference file path) :
    selector.Yields requester ((selector.on inventory).forDelete requester reference)
      (Grant.firstOfLocations ((inventory.replicasOf file.guid).filterMap
        (selector.deletion? inventory requester file path))) := by
  obtain ⟨found, hfound, hiff⟩ := inventory.resolve_catalogue reference
  rw [(hiff file path).2 hresolves] at hfound
  have hgrant : ∀ replica, selector.Yields requester
      ((selector.on inventory).deleteGrant? requester file path replica)
      ((inventory.element? replica.element).bind fun element =>
        if selector.permits requester .delete ⟨file, replica, element, path⟩ then
          selector.seal? requester .delete none ⟨file, replica, element, path⟩
        else none) := by
    intro replica
    simp only [deleteGrant?, catalogue_on, Inventory.element_catalogue,
      SelectionError.ofQuery_ok_bind]
    cases inventory.element? replica.element with
    | none => exact .ok none
    | some element => exact (selector.on inventory).yields_grant? requester .delete none _
  have hgrants := Yields.mapM hgrant ((inventory.replicasOf file.guid).filter Replica.isPlain)
  simp only [forDelete, catalogue_on, hfound, Inventory.replicas_catalogue,
    SelectionError.ofQuery_ok_bind]
  refine hgrants.bind (Or.inl ?_)
  rw [List.filterMap_map, List.filterMap_filter]
  rfl

/-- The replicas that are granted keep their order. -/
theorem map_replica_deletions (selector : Selector) (inventory : Inventory)
    (requester : Requester) (file : FileRecord) (path : Option LogicalPath)
    (replicas : List Replica) :
    (replicas.filterMap (selector.deletion? inventory requester file path)).map Grant.replica =
      replicas.filter fun replica =>
        (selector.deletion? inventory requester file path replica).isSome := by
  rw [List.map_filterMap, ← List.filterMap_eq_filter]
  apply List.filterMap_congr
  intro replica _
  cases hgrant : selector.deletion? inventory requester file path replica with
  | none => simp [Option.guard, hgrant]
  | some grant =>
    obtain ⟨hreplica, -⟩ := deletion?_eq_some_iff.1 hgrant
    simp [Option.guard, hgrant, hreplica]

/-- No replica before it in the catalogue may be deleted by the same location to transfer. -/
def IsFirstDeletion (selector : Selector) (inventory : Inventory) (requester : Requester)
    (file : FileRecord) (path : Option LogicalPath) (grant : Grant) : Prop :=
  ∃ before after, inventory.replicasOf file.guid = before ++ grant.replica :: after ∧
    ∀ earlier, selector.Deletes inventory requester file path earlier →
      earlier.replica ∈ before → earlier.location ≠ grant.location

/-- The grants that stay are the first deletions of their locations. -/
theorem mem_firstDeletions_iff :
    grant ∈ Grant.firstOfLocations ((inventory.replicasOf file.guid).filterMap
        (selector.deletion? inventory requester file path)) ↔
      selector.Deletes inventory requester file path grant ∧
        selector.IsFirstDeletion inventory requester file path grant := by
  rw [Grant.mem_firstOfLocations]
  constructor
  · rintro ⟨front, back, hgrants, hfront⟩
    obtain ⟨granted, others, hreplicas, rfl, hothers⟩ := List.filterMap_eq_append_iff.1 hgrants
    obtain ⟨skipped, replica, after, rfl, hskipped, hgrant, -⟩ :=
      List.filterMap_eq_cons_iff.1 hothers
    obtain ⟨rfl, -⟩ := id (deletion?_eq_some_iff.1 hgrant)
    refine ⟨deletes_iff.2 ⟨by simp [hreplicas], hgrant⟩, granted ++ skipped, after,
      by rw [hreplicas, List.append_assoc], ?_⟩
    intro earlier hearlier hmem
    have hdeletion := (deletes_iff.1 hearlier).2
    rcases List.mem_append.1 hmem with hmem | hmem
    · exact hfront earlier (List.mem_filterMap.2 ⟨_, hmem, hdeletion⟩)
    · rw [hskipped _ hmem] at hdeletion
      cases hdeletion
  · rintro ⟨hdeletes, before, after, hreplicas, hbefore⟩
    have hgrant := (deletes_iff.1 hdeletes).2
    refine ⟨before.filterMap (selector.deletion? inventory requester file path),
      after.filterMap (selector.deletion? inventory requester file path), ?_, ?_⟩
    · rw [hreplicas, List.filterMap_append, List.filterMap_cons_some hgrant]
    · intro earlier hearlier
      obtain ⟨replica, hmem, hdeletion⟩ := List.mem_filterMap.1 hearlier
      obtain ⟨rfl, -⟩ := id (deletion?_eq_some_iff.1 hdeletion)
      have hheld : earlier.replica ∈ inventory.replicasOf file.guid := by simp [hreplicas, hmem]
      exact hbefore earlier (deletes_iff.2 ⟨hheld, hdeletion⟩) hmem

/-- A file is deleted by its path where files are addressed so, and else by its own location. -/
theorem Deletes.location (h : selector.Deletes inventory requester file path grant) :
    grant.location =
      (EnvelopeTarget.pathLocation? ⟨file, grant.replica, grant.element, path⟩ none).getD
        grant.replica.location := by
  obtain ⟨-, -, henvelope, -⟩ := seal?_eq_some_iff.1 h.sealed
  rw [Grant.location, henvelope, Envelope.get?_build]
  rfl

end Selector

variable {selector : Selector} {inventory : Inventory} {requester : Requester}
  {reference : FileReference} {file : FileRecord} {path : Option LogicalPath}

/-- The tickets for deleting a file are for those of its replicas that may be deleted, in the order
of the catalogue, and of several replicas with one location to transfer only for the first. So every
such location is granted once; and every location of a replica is, if none of them is deleted by its
path. -/
theorem forDelete_tickets (h : selector.issuer.IsInTime requester.now)
    (hresolves : inventory.Resolves reference file path) :
    ∃ tickets, (selector.on inventory).forDelete requester reference = .ok tickets ∧
      (∀ grant, grant ∈ tickets ↔ selector.Deletes inventory requester file path grant ∧
        selector.IsFirstDeletion inventory requester file path grant) ∧
      (∀ grant ∈ tickets, grant.envelope.access = .delete) ∧
      (tickets.map Grant.replica).Sublist (inventory.replicasOf file.guid) ∧
      tickets.Pairwise (fun a b => a.location ≠ b.location) ∧
      (∀ grant, selector.Deletes inventory requester file path grant →
        ∃ kept ∈ tickets, kept.location = grant.location) ∧
      ((∀ grant, selector.Deletes inventory requester file path grant →
          EnvelopeTarget.pathLocation? ⟨file, grant.replica, grant.element, path⟩ none = none) →
        ∀ grant, selector.Deletes inventory requester file path grant →
          ∃ kept ∈ tickets, kept.replica.location = grant.replica.location) := by
  let tickets := Grant.firstOfLocations ((inventory.replicasOf file.guid).filterMap
    (selector.deletion? inventory requester file path))
  have hmem : ∀ grant, grant ∈ tickets ↔ selector.Deletes inventory requester file path grant ∧
      selector.IsFirstDeletion inventory requester file path grant :=
    fun grant => Selector.mem_firstDeletions_iff
  have hkept : ∀ grant, selector.Deletes inventory requester file path grant →
      ∃ kept ∈ tickets, kept.location = grant.location := by
    intro grant hgrant
    obtain ⟨hreplica, hdeletion⟩ := Selector.deletes_iff.1 hgrant
    exact Grant.exists_mem_firstOfLocations (List.mem_filterMap.2 ⟨_, hreplica, hdeletion⟩)
  refine ⟨tickets, (selector.yields_forDelete requester hresolves).eq_ok h, hmem, ?_, ?_,
    Grant.pairwise_firstOfLocations _, hkept, ?_⟩
  · intro grant hgrant
    obtain ⟨-, -, henvelope, -⟩ := Selector.seal?_eq_some_iff.1 ((hmem grant).1 hgrant).1.sealed
    rw [henvelope, Envelope.access_build]
  · have hsublist := (Grant.firstOfLocations_sublist ((inventory.replicasOf file.guid).filterMap
      (selector.deletion? inventory requester file path))).map Grant.replica
    rw [Selector.map_replica_deletions] at hsublist
    exact hsublist.trans List.filter_sublist
  · intro hlocated grant hgrant
    obtain ⟨kept, hmember, hlocation⟩ := hkept grant hgrant
    have hdeletes := ((hmem kept).1 hmember).1
    refine ⟨kept, hmember, ?_⟩
    rwa [hdeletes.location, hgrant.location, hlocated kept hdeletes, hlocated grant hgrant]
      at hlocation

/-! ## Two replicas behind one door -/

/-- The path of a file. -/
def doorPath : LogicalPath :=
  ⟨["alice".toList, "file".toList], by decide⟩

/-- A file with two replicas on a storage element where files are addressed by path. -/
def doorInventory : Inventory where
  files := [sampleTarget.file]
  replicas := [⟨⟨1⟩, 2, "root://door.example:1094//pool1/file"⟩,
    ⟨⟨1⟩, 2, "root://door.example:1094//pool2/file"⟩]
  entries := [.file doorPath ⟨1⟩ "alice" "alice" .standard]
  elements := [.basic 2 "ALICE::EXAMPLE::DCACHE" "root://door.example:1094" "/pool"]
  distances := []

theorem resolves_doorPath :
    doorInventory.Resolves (.name doorPath) sampleTarget.file (some doorPath) :=
  have hentry : doorInventory.entry? doorPath =
      some (.file doorPath ⟨1⟩ "alice" "alice" .standard) := by
    decide
  .name hentry rfl rfl

/-- Both replicas may be deleted, by the path of the file. -/
theorem exists_deletes_door {replica : Replica} (h : replica ∈ doorInventory.replicas) :
    ∃ grant, sampleSelector.Deletes doorInventory sampleRequester sampleTarget.file
        (some doorPath) grant ∧
      grant.replica = replica ∧ grant.location = "root://door.example:1094/alice/file" := by
  let element := StorageElement.basic 2 "ALICE::EXAMPLE::DCACHE" "root://door.example:1094" "/pool"
  obtain ⟨grant, hgrant⟩ := exists_seal?_sample .delete none
    ⟨sampleTarget.file, replica, element, some doorPath⟩ rfl
  obtain ⟨rfl, helement, -, -⟩ := id (Selector.seal?_eq_some_iff.1 hgrant)
  have hfacts : ∀ replica ∈ doorInventory.replicas, replica.guid = ⟨1⟩ ∧ replica.element = 2 ∧
      replica.archiveLink = .ok none := by
    decide +kernel
  obtain ⟨hguid, hnumber, hlink⟩ := hfacts _ h
  have hdeletes : sampleSelector.Deletes doorInventory sampleRequester sampleTarget.file
      (some doorPath) grant := by
    refine ⟨Inventory.mem_replicasOf.2 ⟨h, hguid⟩, hlink, ?_, ?_, ?_⟩
    · rw [hnumber, helement]
      rfl
    · rw [helement]
      rfl
    · rw [helement]
      exact hgrant
  refine ⟨grant, hdeletes, rfl, ?_⟩
  have hpath : element.isPathAddressed = true := by decide +kernel
  have hlocation : element.pathLocation doorPath = "root://door.example:1094/alice/file" := by
    decide +kernel
  rw [hdeletes.location, helement]
  simp [EnvelopeTarget.pathLocation?, EnvelopeTarget.namedPath, element, hpath, hlocation]

theorem forDelete_tickets_sample : ∃ tickets kept,
    (sampleSelector.on doorInventory).forDelete sampleRequester (.name doorPath) = .ok tickets ∧
    kept ∈ tickets ∧ kept.envelope.access = .delete ∧
    kept.replica = ⟨⟨1⟩, 2, "root://door.example:1094//pool1/file"⟩ := by
  obtain ⟨tickets, hrun, hmem, haccess, -⟩ :=
    forDelete_tickets isInTime_sample resolves_doorPath
  obtain ⟨kept, hdeletes, hreplica, -⟩ := exists_deletes_door
    (by decide : ⟨⟨1⟩, 2, "root://door.example:1094//pool1/file"⟩ ∈ doorInventory.replicas)
  have hkept : kept ∈ tickets := by
    refine (hmem kept).2 ⟨hdeletes, [], doorInventory.replicas.tail, ?_, by simp⟩
    rw [hreplica]
    decide
  exact ⟨tickets, kept, hrun, hkept, haccess kept hkept, hreplica⟩

/-- The second replica behind the door may be deleted, but has no ticket. -/
theorem deletable_replica_without_ticket : ∃ lost tickets,
    sampleSelector.Deletes doorInventory sampleRequester sampleTarget.file (some doorPath) lost ∧
    (sampleSelector.on doorInventory).forDelete sampleRequester (.name doorPath) = .ok tickets ∧
    ∀ kept ∈ tickets, kept.replica.location ≠ lost.replica.location := by
  let replicas := doorInventory.replicas
  obtain ⟨first, hfirst, hpool1, hdoor1⟩ := exists_deletes_door
    (by decide : ⟨⟨1⟩, 2, "root://door.example:1094//pool1/file"⟩ ∈ replicas)
  obtain ⟨lost, hlost, hpool2, hdoor2⟩ := exists_deletes_door
    (by decide : ⟨⟨1⟩, 2, "root://door.example:1094//pool2/file"⟩ ∈ replicas)
  have hreplicas : doorInventory.replicasOf sampleTarget.file.guid =
      [first.replica, lost.replica] := by
    rw [hpool1, hpool2]
    decide
  have hrun := (sampleSelector.yields_forDelete sampleRequester resolves_doorPath).eq_ok
    isInTime_sample
  -- Both grants have the location that the path gives, so only the first one stays.
  rw [hreplicas, List.filterMap_cons_some (Selector.deletes_iff.1 hfirst).2,
    List.filterMap_cons_some (Selector.deletes_iff.1 hlost).2, List.filterMap_nil] at hrun
  refine ⟨lost, _, hlost, hrun, ?_⟩
  intro kept hkept
  have hkept : kept = first := by
    simpa [Grant.firstOfLocations, hdoor1, hdoor2] using hkept
  rw [hkept, hpool1, hpool2]
  decide

end GridAccess
