import GridAccess.Proofs.Catalogue.Ranking
import GridAccess.Proofs.Envelope.Canonical
import GridAccess.Proofs.Selection.Granting
import GridAccess.Selection.Read

/-!
# Members of archives

A member of an archive is read on a replica of the archive. The way there is a route: a replica of
the file that is a link, the archive that the link leads into, and a replica of the archive. A route
is granted if neither the member nor the archive is denied.

## Main definitions

- `ArchiveRoute` — a link, the archive behind it and a replica of the archive
- `ArchiveRoute.IsOf` — the routes to a file that an inventory knows
- `ArchiveRoute.IsOpen` — neither the member nor the archive is denied
- `ArchiveRoute.Grants` — the grant that an open route gives
- `Envelope.IsOfMember` — what envelopes for members of archives say
- `Selector.routeGrants` — the grants for the routes that begin at one replica

## Main statements

- `Selector.yields_memberGrants` — selecting grants the routes that begin at the replicas of a file
- `Selector.mem_routeGrants` — exactly the open routes are granted, as far as tickets can be made
- `Selector.located_routeGrants_sublist` — the grants of one link stand nearest first
-/

namespace GridAccess

/-! ## Replicas that are read -/

/-- The replicas of a file that are no members of archives, on known storage elements, sorted by
proximity for a requester: by the site that it asks from, with the elements that it prefers first and
without those that it rules out. -/
def Inventory.IsRankedFor (inventory : Inventory) (requester : Requester)
    (preferences : ElementPreferences) (guid : Guid) (ranked : List LocatedReplica) : Prop :=
  ProximityCriteria.IsRanked
    ⟨requester.principal.site, preferences.preferred, preferences.excluded⟩ inventory.catalogue
    LocatedReplica.element
    (inventory.located ((inventory.replicasOf guid).filter fun replica =>
      replica.archiveLink = .ok none)) ranked

theorem Replica.isPlain_iff {replica : Replica} :
    replica.isPlain = true ↔ replica.archiveLink = .ok none := by
  rw [isPlain]
  split
  · next hlink => simp [hlink]
  · next hlink => simpa using hlink

/-- These are the nearest ones. -/
theorem Inventory.isNearest_iff {inventory : Inventory} {requester : Requester}
    {preferences : ElementPreferences} {guid : Guid} {ranked : List LocatedReplica} :
    inventory.IsNearest (requester.criteria preferences)
        ((inventory.replicasOf guid).filter Replica.isPlain) ranked ↔
      inventory.IsRankedFor requester preferences guid ranked := by
  have hplain : (inventory.replicasOf guid).filter Replica.isPlain =
      (inventory.replicasOf guid).filter fun replica => replica.archiveLink = .ok none := by
    refine List.filter_congr ?_
    intro replica _
    rw [Bool.eq_iff_iff, Replica.isPlain_iff, decide_eq_true_iff]
  rw [IsNearest, hplain]
  exact ProximityCriteria.nearestFirst_iff_isRanked

/-! ## Routes -/

/-- The registered archive that a link leads into. -/
def Inventory.archiveOf? (inventory : Inventory) (link : ArchiveLink) : Option FileRecord :=
  match link.container with
  | .registered guid => inventory.file? guid
  | .location location => (inventory.guidAt? location).bind inventory.file?

theorem Inventory.archiveOf_catalogue (inventory : Inventory) (link : ArchiveLink) :
    inventory.catalogue.archiveOf link = .ok (inventory.archiveOf? link) := by
  rw [Catalogue.archiveOf, archiveOf?]
  cases link.container with
  | registered guid => rfl
  | location location =>
    simp only [catalogue]
    cases inventory.guidAt? location with
    | none => rfl
    | some guid => rfl

/-- What reading a replica is decided by if its storage element need not be known. -/
def Inventory.linkRequest (inventory : Inventory) (file : FileRecord) (replica : Replica) :
    AccessRequest :=
  ⟨file, replica, (inventory.element? replica.element).getD (.unregistered replica.element), .read⟩

/-- A way to the bytes of a member: a replica of the file that is a link, the archive that the link
leads into, and a replica of the archive. -/
structure ArchiveRoute where
  replica : Replica
  link : ArchiveLink
  archive : FileRecord
  located : LocatedReplica

namespace ArchiveRoute

/-- The routes to a file that an inventory knows. They end at a replica of the archive that is no
member of an archive itself, on a known storage element that is not ruled out. -/
structure IsOf (route : ArchiveRoute) (inventory : Inventory) (preferences : ElementPreferences)
    (file : FileRecord) : Prop where
  mem_replicas : route.replica ∈ inventory.replicasOf file.guid
  archiveLink : route.replica.archiveLink = .ok (some route.link)
  archiveOf : inventory.archiveOf? route.link = some route.archive
  mem_archive : route.located.replica ∈ inventory.replicasOf route.archive.guid
  element : inventory.element? route.located.replica.element = some route.located.element
  notExcluded : ∀ name ∈ preferences.excluded, ¬route.located.element.GoesBy name
  plain : route.located.replica.archiveLink = .ok none

/-- Neither the member nor the archive is denied. -/
structure IsOpen (route : ArchiveRoute) (inventory : Inventory) (selector : Selector)
    (requester : Requester) (file : FileRecord) : Prop where
  member : selector.authorization.access requester.principal
    (inventory.linkRequest file route.replica) = none
  archive : selector.authorization.access requester.principal
    ⟨route.archive, route.located.replica, route.located.element, .read⟩ = none

/-- The member as the envelopes of the archive name it. -/
def anchor (route : ArchiveRoute) (inventory : Inventory) (file : FileRecord) : ArchiveAnchor :=
  ⟨file.guid, route.link.member, (inventory.pathsOf route.archive.guid).head?⟩

/-- The replica of the archive that is granted. -/
def target (route : ArchiveRoute) (inventory : Inventory) : EnvelopeTarget :=
  route.located.target route.archive (inventory.pathsOf route.archive.guid).head?

/-- The grant of a route, if its ticket can be made. -/
def seal? (route : ArchiveRoute) (inventory : Inventory) (selector : Selector)
    (requester : Requester) (file : FileRecord) : Option Grant :=
  selector.seal? requester .read (some (route.anchor inventory file)) (route.target inventory)

/-- A route gives a grant: the inventory knows the route, nothing on it is denied, and this is the
grant that its ticket makes. -/
structure Grants (route : ArchiveRoute) (inventory : Inventory) (selector : Selector)
    (requester : Requester) (preferences : ElementPreferences) (file : FileRecord) (grant : Grant) :
    Prop where
  isOf : route.IsOf inventory preferences file
  isOpen : route.IsOpen inventory selector requester file
  sealed : route.seal? inventory selector requester file = some grant

end ArchiveRoute

/-- What an envelope for a member says: identifier, size and checksum of the archive, the first path
of the archive if it has one, the identifier of the member, and its name behind a hash sign. -/
structure Envelope.IsOfMember (envelope : Envelope) (inventory : Inventory)
    (file archive : FileRecord) (link : ArchiveLink) : Prop where
  guid : envelope.get? .guid = some archive.guid.text
  size : envelope.get? .size = some (String.ofList (Text.Decimal.digits archive.size.toNat))
  md5 : envelope.get? .md5 = archive.md5
  zguid : envelope.get? .zguid = some file.guid.text
  lfn : envelope.get? .lfn =
    some (((inventory.pathsOf archive.guid).head?.map LogicalPath.text).getD LogicalPath.noName)
  turl : ∃ location, envelope.get? .turl = some (location ++ "#" ++ link.member)

variable {selector : Selector} {inventory : Inventory} {requester : Requester}
  {preferences : ElementPreferences} {file : FileRecord} {replica : Replica} {grant : Grant}

/-- The envelope of a granted route names the member and describes the archive. -/
theorem ArchiveRoute.isOfMember {route : ArchiveRoute}
    (h : route.seal? inventory selector requester file = some grant) :
    grant.envelope.IsOfMember inventory file route.archive route.link := by
  obtain ⟨-, -, henvelope, -⟩ := Selector.seal?_eq_some_iff.1 h
  have hget := Envelope.get?_build .read (route.target inventory)
    (some (route.anchor inventory file))
  rw [← henvelope] at hget
  refine ⟨hget .guid, hget .size, hget .md5, hget .zguid, ?_, _, hget .turl⟩
  rw [hget]
  simp [EnvelopeTarget.namedPath, target, anchor, LocatedReplica.target]

theorem map_located_target (nearest : List LocatedReplica) (file : FileRecord)
    (path : Option LogicalPath) :
    (nearest.map fun located => located.target file path).map EnvelopeTarget.located = nearest := by
  rw [List.map_map]
  exact List.map_id nearest

namespace Selector

/-- The replicas of an archive that are no members of archives themselves, nearest first. -/
def archiveReplicas (inventory : Inventory) (criteria : ProximityCriteria) (archive : FileRecord) :
    List LocatedReplica :=
  (criteria.sort inventory.catalogue LocatedReplica.element
    (inventory.located (inventory.replicasOf archive.guid))).filter fun located =>
      located.replica.isPlain

/-- The grants for the routes that begin at a replica, nearest first. -/
def routeGrants (selector : Selector) (inventory : Inventory) (requester : Requester)
    (preferences : ElementPreferences) (file : FileRecord) (replica : Replica) : List Grant :=
  match replica.archiveLink with
  | .ok (some link) =>
    match selector.authorization.access requester.principal (inventory.linkRequest file replica),
      inventory.archiveOf? link with
    | none, some archive =>
      let path := (inventory.pathsOf archive.guid).head?
      selector.granted requester .read (some ⟨file.guid, link.member, path⟩)
        ((archiveReplicas inventory (requester.criteria preferences) archive).map fun located =>
          located.target archive path)
    | _, _ => []
  | _ => []

/-- The replicas of an archive stand nearest first. -/
theorem isNearest_archiveReplicas (inventory : Inventory) (criteria : ProximityCriteria)
    (archive : FileRecord) :
    inventory.IsNearest criteria ((inventory.replicasOf archive.guid).filter Replica.isPlain)
      (archiveReplicas inventory criteria archive) :=
  Inventory.IsNearest.filter (criteria.nearestFirst_sort _ _ _) Replica.isPlain

theorem yields_archiveGrants (selector : Selector) (inventory : Inventory) (requester : Requester)
    (preferences : ElementPreferences) (file : FileRecord) (link : ArchiveLink) :
    selector.Yields requester
      ((selector.on inventory).archiveGrants requester preferences file link)
      (match inventory.archiveOf? link with
        | none => []
        | some archive =>
          let path := (inventory.pathsOf archive.guid).head?
          selector.granted requester .read (some ⟨file.guid, link.member, path⟩)
            ((archiveReplicas inventory (requester.criteria preferences) archive).map fun located =>
              located.target archive path)) := by
  simp only [archiveGrants, catalogue_on, inventory.archiveOf_catalogue,
    SelectionError.ofQuery_ok_bind]
  cases inventory.archiveOf? link with
  | none => exact .ok []
  | some archive =>
    -- All replicas of the archive are sorted, and only then are its links left out.
    have hnearest := Inventory.nearestReplicas_catalogue
      ((requester.criteria preferences).nearestFirst_sort inventory.catalogue
        LocatedReplica.element (inventory.located (inventory.replicasOf archive.guid)))
    simp only [Inventory.paths_catalogue, Inventory.replicas_catalogue, hnearest,
      SelectionError.ofQuery_ok_bind]
    exact (selector.on inventory).yields_grantAll requester .read _ _

/-- Selecting grants the routes that begin at a link. -/
theorem yields_linkGrants (selector : Selector) (inventory : Inventory) (requester : Requester)
    (preferences : ElementPreferences) (file : FileRecord) {link : ArchiveLink}
    (hlink : replica.archiveLink = .ok (some link)) :
    selector.Yields requester
      ((selector.on inventory).linkGrants requester preferences file replica link)
      (selector.routeGrants inventory requester preferences file replica) := by
  have harchive := selector.yields_archiveGrants inventory requester preferences file link
  simp only [linkGrants, catalogue_on, Inventory.element_catalogue, SelectionError.ofQuery_ok_bind,
    routeGrants, hlink, Inventory.linkRequest]
  simp only [on] at harchive ⊢
  cases selector.authorization.access requester.principal
      ⟨file, replica, (inventory.element? replica.element).getD (.unregistered replica.element),
        .read⟩ with
  | some denial => exact .ok []
  | none => cases hfound : inventory.archiveOf? link <;> simpa only [hfound] using harchive

/-- Selecting grants the routes that begin at the replicas of a file. -/
theorem yields_memberGrants (selector : Selector) (inventory : Inventory) (requester : Requester)
    (preferences : ElementPreferences) (file : FileRecord) (replicas : List Replica) :
    selector.Yields requester
      ((selector.on inventory).memberGrants requester preferences file replicas)
      (replicas.flatMap (selector.routeGrants inventory requester preferences file)) := by
  rw [memberGrants]
  refine (Yields.mapM ?_ replicas).bind (.ok _)
  intro replica
  split
  · next link hlink =>
    exact selector.yields_linkGrants inventory requester preferences file hlink
  · next hother =>
    rw [routeGrants]
    split
    · next link hlink => exact absurd hlink (hother link)
    · exact .ok []

/-- The replicas of an archive that are granted for one link stand nearest first. -/
theorem located_routeGrants_sublist {link : ArchiveLink} {archive : FileRecord}
    (hlink : replica.archiveLink = .ok (some link))
    (harchive : inventory.archiveOf? link = some archive) :
    ((selector.routeGrants inventory requester preferences file replica).map Grant.located).Sublist
      (archiveReplicas inventory (requester.criteria preferences) archive) := by
  simp only [routeGrants, hlink, harchive]
  cases selector.authorization.access requester.principal (inventory.linkRequest file replica) with
  | some denial => exact List.nil_sublist _
  | none =>
    have hsub := selector.located_granted_sublist requester .read
      (some ⟨file.guid, link.member, (inventory.pathsOf archive.guid).head?⟩)
      ((archiveReplicas inventory (requester.criteria preferences) archive).map fun located =>
        located.target archive (inventory.pathsOf archive.guid).head?)
    rwa [map_located_target] at hsub

/-- Exactly the open routes from a replica are granted, as far as their tickets can be made. -/
theorem mem_routeGrants (hreplica : replica ∈ inventory.replicasOf file.guid) :
    grant ∈ selector.routeGrants inventory requester preferences file replica ↔
      ∃ route : ArchiveRoute, route.replica = replica ∧
        route.Grants inventory selector requester preferences file grant := by
  rw [routeGrants]
  constructor
  · intro hgrant
    split at hgrant
    · next link hlink =>
      split at hgrant
      · next archive hmember harchive =>
        obtain ⟨target, htarget, hpermits, hseal⟩ := mem_granted.1 hgrant
        obtain ⟨located, hlocated, rfl⟩ := List.mem_map.1 htarget
        obtain ⟨hstored, helement, hadmitted⟩ :=
          (isNearest_archiveReplicas inventory _ archive).mem_iff.1 hlocated
        obtain ⟨hmem, hplain⟩ := List.mem_filter.1 hstored
        refine ⟨⟨replica, link, archive, located⟩, rfl, ?_, ?_, hseal⟩
        · exact ⟨hreplica, hlink, harchive, hmem, helement, ProximityCriteria.admits_iff.2 hadmitted,
            Replica.isPlain_iff.1 hplain⟩
        · exact ⟨hmember, permits_eq_true_iff.1 hpermits⟩
      · cases hgrant
    · cases hgrant
  · rintro ⟨⟨start, link, archive, located⟩, rfl, hroute, hopen, hseal⟩
    simp only [hroute.archiveLink, hopen.member, hroute.archiveOf]
    refine mem_granted.2 ⟨_, List.mem_map_of_mem ?_, permits_eq_true_iff.2 hopen.archive, hseal⟩
    refine (isNearest_archiveReplicas inventory _ archive).mem_iff.2
      ⟨List.mem_filter.2 ⟨hroute.mem_archive, ?_⟩, hroute.element,
        ProximityCriteria.admits_iff.1 hroute.notExcluded⟩
    exact Replica.isPlain_iff.2 hroute.plain

end Selector

end GridAccess
