import GridAccess.Proofs.Selection.Archive
import Mathlib.Data.List.Forall2

/-!
# The tickets for reading a file

Reading a file begins with the tickets for its own replicas, nearest first: for those that are not
denied, whose ticket can be made, and whose location was not granted before. Behind them stand
tickets for archives that the file is a member of, and each of them comes by an open route.

## Main definitions

- `Selector.plainTickets` — the tickets for a file's own replicas
- `Selector.RouteTickets` — the tickets by the routes that begin at one replica

## Main statements

- `Selector.yields_forRead` — what is granted, as one list
- `forRead_plainTickets` — the tickets for a file's own replicas, and nothing disturbs them
- `forRead_memberTickets` — the tickets behind them come by open routes, and no open route is lost
-/

namespace GridAccess

variable {selector : Selector} {inventory : Inventory} {requester : Requester}
  {preferences : ElementPreferences} {reference : FileReference} {file : FileRecord}
  {path : Option LogicalPath} {nearest : List LocatedReplica}

namespace Selector

/-- The tickets for a file's own replicas, which stand nearest first. -/
def plainTickets (selector : Selector) (requester : Requester) (file : FileRecord)
    (path : Option LogicalPath) (nearest : List LocatedReplica) : List Grant :=
  Grant.firstOfLocations <| selector.granted requester .read none <|
    nearest.map fun located => located.target file path

/-- They are kept one after the other. -/
theorem keeps_plainTickets (selector : Selector) (requester : Requester) (file : FileRecord)
    (path : Option LogicalPath) (nearest : List LocatedReplica) :
    Grant.Keeps [] (selector.granted requester .read none
        (nearest.map fun located => located.target file path))
      (selector.plainTickets requester file path nearest) :=
  (Grant.keeps_nil_iff fun _ hgrant => hasLocation_of_mem_granted hgrant).2 rfl

/-- A ticket for one of a file's own replicas is for that replica, and says so. -/
theorem exists_of_mem_plainTickets {grant : Grant}
    (h : grant ∈ selector.plainTickets requester file path nearest) :
    ∃ located ∈ nearest, grant.replica = located.replica ∧ grant.element = located.element ∧
      grant.envelope = Envelope.build .read ⟨file, located.replica, located.element, path⟩ none ∧
      grant.ticket.policy = located.element.policy := by
  obtain ⟨target, htarget, -, hseal⟩ :=
    mem_granted.1 ((Grant.firstOfLocations_sublist _).subset h)
  obtain ⟨located, hlocated, rfl⟩ := List.mem_map.1 htarget
  obtain ⟨hreplica, helement, henvelope, -⟩ := seal?_eq_some_iff.1 hseal
  exact ⟨located, hlocated, hreplica, helement, henvelope, policy_of_seal? hseal⟩

/-- Leaving out replicas that are not granted does not change the tickets. -/
theorem plainTickets_filter (keep : LocatedReplica → Bool)
    (h : ∀ located ∈ nearest, keep located = false →
      selector.permits requester .read (located.target file path) = false ∨
        selector.seal? requester .read none (located.target file path) = none) :
    selector.plainTickets requester file path (nearest.filter keep) =
      selector.plainTickets requester file path nearest := by
  have htargets : (nearest.filter keep).map (fun located => located.target file path) =
      (nearest.map fun located => located.target file path).filter fun target =>
        keep target.located := by
    rw [List.filter_map]
    rfl
  rw [plainTickets, plainTickets, htargets, granted_filter]
  intro target htarget hkeep
  obtain ⟨located, hlocated, rfl⟩ := List.mem_map.1 htarget
  exact h located hlocated hkeep

/-- What is granted for reading: the file's own replicas, then the routes to it. -/
theorem yields_forRead (selector : Selector) (requester : Requester)
    (hresolves : inventory.Resolves reference file path)
    (hnearest : inventory.IsNearest (requester.criteria preferences)
      ((inventory.replicasOf file.guid).filter Replica.isPlain) nearest) :
    selector.Yields requester
      ((selector.on inventory).forRead requester preferences reference)
      (Grant.firstOfLocations
        (selector.granted requester .read none
            (nearest.map fun located => located.target file path) ++
          (inventory.replicasOf file.guid).flatMap
            (selector.routeGrants inventory requester preferences file))) := by
  obtain ⟨found, hfound, hiff⟩ := inventory.resolve_catalogue reference
  rw [(hiff file path).2 hresolves] at hfound
  have hplain : selector.Yields requester
      ((selector.on inventory).plainGrants requester preferences file path
        (inventory.replicasOf file.guid))
      (selector.granted requester .read none
        (nearest.map fun located => located.target file path)) := by
    simp only [plainGrants, catalogue_on, Inventory.nearestReplicas_catalogue hnearest,
      SelectionError.ofQuery_ok_bind]
    exact (selector.on inventory).yields_grantAll requester .read none _
  simp only [forRead, catalogue_on, hfound, Inventory.replicas_catalogue,
    SelectionError.ofQuery_ok_bind]
  exact hplain.bind
    ((selector.yields_memberGrants inventory requester preferences file _).bind (.ok _))

/-- The tickets for the file's own replicas come first, and those behind them are some of the grants
for routes, in their order. -/
theorem exists_yields_forRead (selector : Selector) (requester : Requester)
    (hresolves : inventory.Resolves reference file path)
    (hnearest : inventory.IsNearest (requester.criteria preferences)
      ((inventory.replicasOf file.guid).filter Replica.isPlain) nearest) :
    ∃ members, selector.Yields requester
        ((selector.on inventory).forRead requester preferences reference)
        (selector.plainTickets requester file path nearest ++ members) ∧
      members.Sublist ((inventory.replicasOf file.guid).flatMap
        (selector.routeGrants inventory requester preferences file)) := by
  have hrun := selector.yields_forRead requester hresolves hnearest
  obtain ⟨members, hfirst, hmembers⟩ := Grant.exists_firstOfLocations_append
    (selector.granted requester .read none (nearest.map fun located => located.target file path))
    ((inventory.replicasOf file.guid).flatMap
      (selector.routeGrants inventory requester preferences file))
  rw [hfirst] at hrun
  exact ⟨members, hrun, hmembers⟩

/-- Without a file that the reference stands for, nothing is granted. -/
theorem forRead_of_not_resolves
    (h : ∀ file path, ¬inventory.Resolves reference file path) :
    (selector.on inventory).forRead requester preferences reference = .ok [] := by
  obtain ⟨found, hfound, hiff⟩ := inventory.resolve_catalogue reference
  cases found with
  | none =>
    simp only [forRead, catalogue_on, hfound, SelectionError.ofQuery_ok_bind]
    rfl
  | some resolved => exact absurd ((hiff resolved.1 resolved.2).1 rfl) (h _ _)

/-- Without replicas, nothing is granted. -/
theorem forRead_of_replicasOf_eq_nil (h : selector.issuer.IsInTime requester.now)
    (hresolves : inventory.Resolves reference file path)
    (hreplicas : inventory.replicasOf file.guid = []) :
    (selector.on inventory).forRead requester preferences reference = .ok [] := by
  have hnearest : inventory.IsNearest (requester.criteria preferences)
      ((inventory.replicasOf file.guid).filter Replica.isPlain) [] := by
    rw [hreplicas]
    exact ⟨.nil, .nil, fun _ _ hsub => hsub⟩
  rw [(selector.yields_forRead requester hresolves hnearest).eq_ok h, hreplicas]
  rfl

end Selector

/-- An inventory without some of its replicas. -/
def Inventory.keepReplicas (inventory : Inventory) (keep : Replica → Bool) : Inventory :=
  { inventory with replicas := inventory.replicas.filter keep }

theorem Inventory.replicasOf_keepReplicas (inventory : Inventory) (keep : Replica → Bool)
    (guid : Guid) :
    (inventory.keepReplicas keep).replicasOf guid = (inventory.replicasOf guid).filter keep :=
  List.filter_comm _ _ _

theorem Inventory.Resolves.keepReplicas (h : inventory.Resolves reference file path)
    (keep : Replica → Bool) : (inventory.keepReplicas keep).Resolves reference file path := by
  cases h with
  | content hfile => exact .content hfile
  | name hentry hguid hfile => exact .name hentry hguid hfile

/-- Without some replicas, the others stand in the same order. -/
theorem Inventory.IsNearest.keepReplicas {criteria : ProximityCriteria}
    (h : inventory.IsNearest criteria ((inventory.replicasOf file.guid).filter Replica.isPlain)
      nearest) (keep : Replica → Bool) :
    (inventory.keepReplicas keep).IsNearest criteria
      (((inventory.keepReplicas keep).replicasOf file.guid).filter Replica.isPlain)
      (nearest.filter fun located => keep located.replica) := by
  rw [replicasOf_keepReplicas, List.filter_comm]
  exact h.filter keep

/-- The tickets for reading a file begin with those for its own replicas: of the replicas that are
no members of archives, on known storage elements that are not ruled out, sorted by proximity, those
that are not denied and whose ticket can be made, the first of each location. All tickets behind them
come by routes through archives. Each ticket says what was granted, and is of the kind that the
storage element asks for. A replica that is denied or whose ticket cannot be made might as well not be
there. What stands for no file, or for one without replicas, is granted nothing. -/
theorem forRead_plainTickets (h : selector.issuer.IsInTime requester.now) (inventory : Inventory)
    (preferences : ElementPreferences) (reference : FileReference) :
    (∀ file path, inventory.Resolves reference file path → ∃ ranked direct members,
      inventory.IsRankedFor requester preferences file.guid ranked ∧
      Grant.Keeps [] (selector.granted requester .read none
        (ranked.map fun located => ⟨file, located.replica, located.element, path⟩)) direct ∧
      (selector.on inventory).forRead requester preferences reference = .ok (direct ++ members) ∧
      (∀ grant ∈ members, ∃ route : ArchiveRoute,
        route.Grants inventory selector requester preferences file grant) ∧
      (∀ grant ∈ direct, ∃ located ∈ ranked,
        grant.replica = located.replica ∧ grant.element = located.element ∧
        grant.envelope = Envelope.build .read ⟨file, located.replica, located.element, path⟩ none ∧
        grant.ticket.policy = located.element.policy) ∧
      ∀ keep : Replica → Bool,
        (∀ located ∈ ranked, keep located.replica = false →
          selector.permits requester .read ⟨file, located.replica, located.element, path⟩ = false ∨
            selector.seal? requester .read none
              ⟨file, located.replica, located.element, path⟩ = none) →
        ∃ others, (selector.on (inventory.keepReplicas keep)).forRead requester preferences
          reference = .ok (direct ++ others)) ∧
    ((∀ file path, inventory.Resolves reference file path →
        inventory.replicasOf file.guid = []) →
      (selector.on inventory).forRead requester preferences reference = .ok []) := by
  constructor
  · intro file path hresolves
    obtain ⟨ranked, hnearest⟩ := inventory.exists_isNearest (requester.criteria preferences)
      ((inventory.replicasOf file.guid).filter Replica.isPlain)
    obtain ⟨members, hrun, hmembers⟩ := selector.exists_yields_forRead requester hresolves hnearest
    refine ⟨ranked, _, members, Inventory.isNearest_iff.1 hnearest,
      Selector.keeps_plainTickets selector requester file path ranked, hrun.eq_ok h, ?_, ?_, ?_⟩
    · intro grant hgrant
      obtain ⟨replica, hreplica, hroutes⟩ := List.mem_flatMap.1 (hmembers.subset hgrant)
      obtain ⟨route, -, hroute⟩ := (Selector.mem_routeGrants hreplica).1 hroutes
      exact ⟨route, hroute⟩
    · exact fun grant hgrant => Selector.exists_of_mem_plainTickets hgrant
    · intro keep hkeep
      obtain ⟨others, hothers, -⟩ := selector.exists_yields_forRead requester
        (hresolves.keepReplicas keep) (hnearest.keepReplicas keep)
      rw [Selector.plainTickets_filter (fun located => keep located.replica) hkeep] at hothers
      exact ⟨others, hothers.eq_ok h⟩
  · intro hnone
    by_cases hresolves : ∃ file path, inventory.Resolves reference file path
    · obtain ⟨file, path, hresolves⟩ := hresolves
      exact Selector.forRead_of_replicasOf_eq_nil h hresolves (hnone file path hresolves)
    · apply Selector.forRead_of_not_resolves
      intro file path hfound
      exact hresolves ⟨file, path, hfound⟩

/-! ## A catalogue to read from -/

/-- A storage element of the sample. -/
def sampleElement (number : ElementNumber) (name host : String) : StorageElement :=
  .basic number name ("root://" ++ host ++ ".example:1094") "/data"

/-- A replica of the sample. -/
def sampleReplica (guid : Guid) (number : ElementNumber) (location : String) : Replica :=
  ⟨guid, number, "root://" ++ location⟩

/-- An archive and a file that is a member of it. -/
def sampleArchive : FileRecord :=
  .register ⟨2⟩ 84 none "alice" "alice"

def sampleMember : FileRecord :=
  .register ⟨3⟩ 21 none "alice" "alice"

/-- A catalogue with storage elements at several sites, of which the third one is closed. The first
file has replicas on all of them, twice at one location, and on one that is not known; the second one
is an archive, and the third a member of it. -/
def sampleInventory : Inventory where
  files := [sampleTarget.file, sampleArchive, sampleMember]
  replicas := [
    sampleReplica ⟨1⟩ 5 "ral.example:1094//data/file",
    sampleReplica ⟨1⟩ 4 "fzk.example:1094//data/file",
    sampleReplica ⟨1⟩ 3 "closed.example:1094//data/file",
    sampleReplica ⟨1⟩ 6 "disk.example:1094//data/file",
    sampleReplica ⟨1⟩ 2 "cnaf.example:1094//data/file",
    sampleReplica ⟨1⟩ 9 "lost.example:1094//data/file",
    sampleTarget.replica,
    sampleReplica ⟨2⟩ 5 "ral.example:1094//data/archive",
    sampleReplica ⟨2⟩ 4 "fzk.example:1094//data/archive",
    sampleReplica ⟨2⟩ 3 "closed.example:1094//data/archive",
    sampleReplica ⟨2⟩ 2 "cnaf.example:1094//data/archive",
    sampleReplica ⟨2⟩ 1 "disk.example:1094//data/archive",
    sampleReplica ⟨2⟩ 1 "disk.example:1094//data/outer?ZIP=archive",
    sampleReplica ⟨3⟩ 5 "ral.example:1094//data/member",
    sampleReplica ⟨3⟩ 9 "disk.example:1094//data/archive?ZIP=member"]
  entries := []
  elements := [sampleTarget.element, sampleElement 2 "ALICE::CNAF::TAPE" "cnaf",
    sampleElement 3 "ALICE::EXAMPLE::CLOSED" "closed", sampleElement 4 "ALICE::FZK::SE" "fzk",
    sampleElement 5 "ALICE::RAL::SE" "ral", sampleElement 6 "ALICE::GSI::SE" "gsi"]
  distances := [(Inventory.distanceKey "example" "gsi", ⟨0x3FD0000000000000⟩)]

/-- A client at the site of the first element. -/
def siteRequester : Requester :=
  ⟨(Principal.account "alice").atSite "example", 0⟩

/-- It prefers the second element and rules out the fourth. -/
def samplePreferences : ElementPreferences :=
  ⟨["alice::cnaf::tape "], [" alice::fzk::se"]⟩

/-- The replicas of the first file as they are sorted for the client. -/
def sampleRanking : List LocatedReplica :=
  [⟨sampleReplica ⟨1⟩ 3 "closed.example:1094//data/file",
      sampleElement 3 "ALICE::EXAMPLE::CLOSED" "closed"⟩,
    sampleTarget.located,
    ⟨sampleReplica ⟨1⟩ 2 "cnaf.example:1094//data/file",
      sampleElement 2 "ALICE::CNAF::TAPE" "cnaf"⟩,
    ⟨sampleReplica ⟨1⟩ 6 "disk.example:1094//data/file", sampleElement 6 "ALICE::GSI::SE" "gsi"⟩,
    ⟨sampleReplica ⟨1⟩ 5 "ral.example:1094//data/file", sampleElement 5 "ALICE::RAL::SE" "ral"⟩]

/-- The replicas at the client's site come first, and of these only the open one is granted; then the
preferred one; then the nearest one, whose location was granted already; and then the others. The one
that is ruled out and the one on an unknown element are not there. -/
theorem forRead_plainTickets_sample : ∃ direct members,
    (sampleSelector.on sampleInventory).forRead siteRequester samplePreferences (.content ⟨1⟩) =
      .ok (direct ++ members) ∧
    direct.map Grant.replica = [sampleTarget.replica,
      sampleReplica ⟨1⟩ 2 "cnaf.example:1094//data/file",
      sampleReplica ⟨1⟩ 5 "ral.example:1094//data/file"] ∧
    (∀ grant ∈ direct, grant.ticket.policy = .signed) := by
  have hresolves : sampleInventory.Resolves (.content ⟨1⟩) sampleTarget.file none :=
    .content rfl
  have htime : sampleSelector.issuer.IsInTime siteRequester.now := isInTime_sample
  obtain ⟨ranked, direct, members, hranked, hkept, hrun, -, hall, -⟩ :=
    (forRead_plainTickets htime sampleInventory samplePreferences (.content ⟨1⟩)).1 _ _ hresolves
  have hranking : ranked = sampleRanking := by
    rw [← ProximityCriteria.isRanked_iff_insertionSort.1 hranked]
    decide +kernel
  subst hranking
  rw [Grant.keeps_nil_iff fun _ => Selector.hasLocation_of_mem_granted] at hkept
  have hissuer : sampleSelector.issuer = sampleIssuer := rfl
  let targets : List EnvelopeTarget := sampleRanking.map fun located =>
    ⟨sampleTarget.file, located.replica, located.element, none⟩
  have hpolicy : ∀ target ∈ targets, target.element.policy = .signed := by decide
  have hgranted := forall₂_granted_of_sampleIssuer hissuer (rfl : siteRequester.now = 0) .read none
    hpolicy
  have hpermitted : targets.filter (sampleSelector.permits siteRequester .read) = targets.tail :=
    rfl
  rw [hpermitted] at hgranted
  change List.Forall₂ _ [_, _, _, _] _ at hgranted
  generalize sampleSelector.granted siteRequester .read none _ = grants at hgranted hkept
  simp only [List.forall₂_cons_left_iff, List.forall₂_nil_left_iff] at hgranted
  obtain ⟨disk, _, hdisk, ⟨cnaf, _, hcnaf, ⟨gsi, _, hgsi, ⟨ral, _, hral, rfl, rfl⟩, rfl⟩, rfl⟩,
    rfl⟩ := hgranted
  have hlocations : disk.location = "root://disk.example:1094//data/file" ∧
      cnaf.location = "root://cnaf.example:1094//data/file" ∧
      gsi.location = "root://disk.example:1094//data/file" ∧
      ral.location = "root://ral.example:1094//data/file" :=
    ⟨Selector.location_of_seal? hdisk, Selector.location_of_seal? hcnaf,
      Selector.location_of_seal? hgsi, Selector.location_of_seal? hral⟩
  have hfirst : direct = [disk, cnaf, ral] := by
    rw [← hkept]
    simp [Grant.firstOfLocations, hlocations]
  refine ⟨direct, members, hrun, ?_, ?_⟩
  · rw [hfirst, List.map_cons, List.map_cons, List.map_cons, List.map_nil,
      (Selector.seal?_eq_some_iff.1 hdisk).1, (Selector.seal?_eq_some_iff.1 hcnaf).1,
      (Selector.seal?_eq_some_iff.1 hral).1]
    rfl
  · intro grant hgrant
    obtain ⟨located, hlocated, -, -, -, hsigned⟩ := hall grant hgrant
    rw [hsigned]
    exact hpolicy _ (List.mem_map_of_mem hlocated)

/-- What stays of the grants for several replicas are parts of the grants for each of them. -/
theorem exists_groups_of_sublist_flatMap {α β : Type} {grantsOf : α → List β} {items : List α}
    {rest : List β} (h : rest.Sublist (items.flatMap grantsOf)) :
    ∃ groups, rest = groups.flatten ∧
      List.Forall₂ (fun item group => group.Sublist (grantsOf item)) items groups := by
  induction items generalizing rest with
  | nil => exact ⟨[], List.sublist_nil.1 h, .nil⟩
  | cons item items ih =>
    rw [List.flatMap_cons] at h
    obtain ⟨group, more, rfl, hgroup, hmore⟩ := List.sublist_append_iff.1 h
    obtain ⟨groups, rfl, hgroups⟩ := ih hmore
    exact ⟨group :: groups, rfl, .cons hgroup hgroups⟩

/-- The tickets that a replica gives as a member of an archive: each comes by a route that begins at
the replica, is for the replica of the archive, and names the member; and those of one link stand
nearest first. -/
structure Selector.RouteTickets (selector : Selector) (inventory : Inventory)
    (requester : Requester) (preferences : ElementPreferences) (file : FileRecord)
    (replica : Replica) (tickets : List Grant) : Prop where
  routes : ∀ grant ∈ tickets, ∃ route : ArchiveRoute, route.replica = replica ∧
    route.Grants inventory selector requester preferences file grant ∧
    grant.located = route.located ∧
    grant.envelope.IsOfMember inventory file route.archive route.link
  nearest : ∀ link archive, replica.archiveLink = .ok (some link) →
    inventory.archiveOf? link = some archive → ∃ ranked,
      inventory.IsRankedFor requester preferences archive.guid ranked ∧
      (tickets.map Grant.located).Sublist ranked

theorem Selector.routeTickets_of_sublist {replica : Replica} {tickets : List Grant}
    (hreplica : replica ∈ inventory.replicasOf file.guid)
    (h : tickets.Sublist (selector.routeGrants inventory requester preferences file replica)) :
    selector.RouteTickets inventory requester preferences file replica tickets where
  routes grant hgrant := by
    obtain ⟨route, hstart, hroute⟩ := (mem_routeGrants hreplica).1 (h.subset hgrant)
    obtain ⟨hgranted, helement, -, -⟩ := seal?_eq_some_iff.1 hroute.sealed
    refine ⟨route, hstart, hroute, ?_, ArchiveRoute.isOfMember hroute.sealed⟩
    rw [Grant.located, hgranted, helement]
    rfl
  nearest link archive hlink harchive :=
    ⟨_, Inventory.isNearest_iff.1 (isNearest_archiveReplicas inventory _ archive),
      (h.map Grant.located).trans (located_routeGrants_sublist hlink harchive)⟩

/-- Each grant that reading chooses from says where to transfer. -/
theorem Selector.hasLocation_of_mem {nearest : List LocatedReplica} {grant : Grant}
    (h : grant ∈ selector.granted requester .read none
        (nearest.map fun located => located.target file path) ++
      (inventory.replicasOf file.guid).flatMap
        (selector.routeGrants inventory requester preferences file)) : grant.HasLocation := by
  rcases List.mem_append.1 h with h | h
  · exact hasLocation_of_mem_granted h
  · obtain ⟨replica, hreplica, h⟩ := List.mem_flatMap.1 h
    obtain ⟨route, -, hroute⟩ := (mem_routeGrants hreplica).1 h
    exact ⟨_, get?_turl_of_seal? hroute.sealed⟩

/-- Behind the tickets for the file's own replicas stand those of its links, link by link. Each of
them comes by a route on which neither the member nor the archive is denied, and each such route has
its location among the tickets, if its own ticket can be made. No two tickets have one location. -/
theorem forRead_memberTickets {tickets : List Grant}
    (hresolves : inventory.Resolves reference file path)
    (htickets : (selector.on inventory).forRead requester preferences reference = .ok tickets) :
    ∃ ranked direct groups,
      inventory.IsRankedFor requester preferences file.guid ranked ∧
      Grant.Keeps [] (selector.granted requester .read none
        (ranked.map fun located => ⟨file, located.replica, located.element, path⟩)) direct ∧
      tickets = direct ++ groups.flatten ∧
      List.Forall₂ (selector.RouteTickets inventory requester preferences file)
        (inventory.replicasOf file.guid) groups ∧
      (∀ (route : ArchiveRoute) (grant : Grant),
        route.Grants inventory selector requester preferences file grant →
          ∃ kept ∈ tickets, kept.envelope.get? .turl = grant.envelope.get? .turl) ∧
      tickets.Pairwise fun a b => a.envelope.get? .turl ≠ b.envelope.get? .turl := by
  obtain ⟨ranked, hnearest⟩ := inventory.exists_isNearest (requester.criteria preferences)
    ((inventory.replicasOf file.guid).filter Replica.isPlain)
  obtain ⟨members, hmembers, hsub⟩ := selector.exists_yields_forRead requester hresolves hnearest
  obtain ⟨groups, rfl, hgroups⟩ := exists_groups_of_sublist_flatMap hsub
  have hgiven := (selector.yields_forRead requester hresolves hnearest).eq_of_ok htickets
  have hlocation : ∀ grant ∈ tickets, grant.HasLocation := by
    intro grant hgrant
    rw [hgiven] at hgrant
    exact Selector.hasLocation_of_mem ((Grant.firstOfLocations_sublist _).subset hgrant)
  refine ⟨ranked, _, groups, Inventory.isNearest_iff.1 hnearest,
    Selector.keeps_plainTickets selector requester file path ranked, hmembers.eq_of_ok htickets,
    ?_, ?_, ?_⟩
  · have hboth := (List.forall₂_and_left _ _).2 ⟨fun _ hreplica => hreplica, hgroups⟩
    exact hboth.imp fun _ _ h => Selector.routeTickets_of_sublist h.1 h.2
  · intro route grant hroute
    have hreplica := hroute.isOf.mem_replicas
    have hgrant := (Selector.mem_routeGrants hreplica).2 ⟨route, rfl, hroute⟩
    obtain ⟨kept, hkept, hsame⟩ := Grant.exists_mem_firstOfLocations (List.mem_append_right
      (selector.granted requester .read none (ranked.map fun located => located.target file path))
      (List.mem_flatMap.2 ⟨route.replica, hreplica, hgrant⟩))
    rw [← hgiven] at hkept
    exact (Grant.mem_map_location_iff hlocation
      ⟨_, Selector.get?_turl_of_seal? hroute.sealed⟩).1 (List.mem_map.2 ⟨kept, hkept, hsame⟩)
  · have hdistinct : tickets.Pairwise fun a b => a.location ≠ b.location := by
      rw [hgiven]
      exact Grant.pairwise_firstOfLocations _
    refine hdistinct.imp_of_mem ?_
    intro a b ha hb hne hsame
    obtain ⟨location, hfound⟩ := hlocation a ha
    rw [Grant.location, Grant.location, ← hsame] at hne
    exact hne rfl

/-- The replicas of the archive as they are sorted for the client. -/
def sampleArchives : List LocatedReplica :=
  [⟨sampleReplica ⟨2⟩ 3 "closed.example:1094//data/archive",
      sampleElement 3 "ALICE::EXAMPLE::CLOSED" "closed"⟩,
    ⟨sampleReplica ⟨2⟩ 1 "disk.example:1094//data/archive", sampleTarget.element⟩,
    ⟨sampleReplica ⟨2⟩ 2 "cnaf.example:1094//data/archive",
      sampleElement 2 "ALICE::CNAF::TAPE" "cnaf"⟩,
    ⟨sampleReplica ⟨2⟩ 5 "ral.example:1094//data/archive", sampleElement 5 "ALICE::RAL::SE" "ral"⟩]

/-- The routes to the third file of the sample end at these, but the first of them is closed. -/
theorem flatMap_routeGrants_sample :
    (sampleInventory.replicasOf sampleMember.guid).flatMap (sampleSelector.routeGrants
        sampleInventory siteRequester samplePreferences sampleMember) =
      sampleSelector.granted siteRequester .read (some ⟨⟨3⟩, "member", none⟩)
        (sampleArchives.map fun located => located.target sampleArchive none) := by
  have hranked := Inventory.isNearest_iff.1 (Selector.isNearest_archiveReplicas sampleInventory
    (siteRequester.criteria samplePreferences) sampleArchive)
  have harchives : Selector.archiveReplicas sampleInventory
      (siteRequester.criteria samplePreferences) sampleArchive = sampleArchives := by
    rw [← ProximityCriteria.isRanked_iff_insertionSort.1 hranked]
    decide +kernel
  rw [← harchives]
  -- Only the second replica of the file is a link.
  exact List.append_nil _

/-- A file with a replica of its own that is a member of an archive as well. The archive is granted
on its open elements, the one at the client's site and the preferred one first, and not on the one
that is ruled out. There are no other routes. -/
theorem forRead_memberTickets_sample : ∃ plain disk cnaf ral,
    (sampleSelector.on sampleInventory).forRead siteRequester samplePreferences (.content ⟨3⟩) =
      .ok [plain, disk, cnaf, ral] ∧
    [plain, disk, cnaf, ral].map (fun grant => grant.envelope.get? .turl) =
      [some "root://ral.example:1094//data/member",
        some "root://disk.example:1094//data/archive#member",
        some "root://cnaf.example:1094//data/archive#member",
        some "root://ral.example:1094//data/archive#member"] ∧
    ∀ (route : ArchiveRoute) (grant : Grant),
      route.Grants sampleInventory sampleSelector siteRequester samplePreferences sampleMember
        grant → ∃ kept ∈ [plain, disk, cnaf, ral],
        kept.envelope.get? .turl = grant.envelope.get? .turl := by
  let ranked : List LocatedReplica :=
    [⟨sampleReplica ⟨3⟩ 5 "ral.example:1094//data/member", sampleElement 5 "ALICE::RAL::SE" "ral"⟩]
  have hresolves : sampleInventory.Resolves (.content ⟨3⟩) sampleMember none := .content rfl
  have hranked : sampleInventory.IsRankedFor siteRequester samplePreferences sampleMember.guid ranked :=
    ProximityCriteria.isRanked_iff_insertionSort.2 (by decide +kernel)
  have hissuer : sampleSelector.issuer = sampleIssuer := rfl
  have hnow : siteRequester.now = 0 := rfl
  have hplain := forall₂_granted_of_sampleIssuer hissuer hnow .read none
    (show ∀ target ∈ ranked.map fun located => located.target sampleMember none,
      target.element.policy = .signed by decide)
  have hmembers := forall₂_granted_of_sampleIssuer hissuer hnow .read
    (some ⟨⟨3⟩, "member", none⟩)
    (show ∀ target ∈ sampleArchives.map fun located => located.target sampleArchive none,
      target.element.policy = .signed by decide)
  change List.Forall₂ _ [_] _ at hplain
  change List.Forall₂ _ [_, _, _] _ at hmembers
  simp only [List.forall₂_cons_left_iff, List.forall₂_nil_left_iff] at hplain hmembers
  obtain ⟨plain, _, hplain, rfl, hplains⟩ := hplain
  obtain ⟨disk, _, hdisk, ⟨cnaf, _, hcnaf, ⟨ral, _, hral, rfl, rfl⟩, rfl⟩, hmembers⟩ := hmembers
  have hlocations : plain.location = "root://ral.example:1094//data/member" ∧
      disk.location = "root://disk.example:1094//data/archive#member" ∧
      cnaf.location = "root://cnaf.example:1094//data/archive#member" ∧
      ral.location = "root://ral.example:1094//data/archive#member" :=
    ⟨Selector.location_of_seal? hplain, Selector.location_of_seal? hdisk,
      Selector.location_of_seal? hcnaf, Selector.location_of_seal? hral⟩
  have hrun := (sampleSelector.yields_forRead siteRequester hresolves
    (Inventory.isNearest_iff.2 hranked)).eq_ok isInTime_sample
  rw [flatMap_routeGrants_sample, hplains, hmembers] at hrun
  have hfirst : Grant.firstOfLocations ([plain] ++ [disk, cnaf, ral]) =
      [plain, disk, cnaf, ral] := by
    simp [Grant.firstOfLocations, hlocations]
  rw [hfirst] at hrun
  obtain ⟨-, -, -, -, -, -, -, hall, -⟩ := forRead_memberTickets hresolves hrun
  refine ⟨plain, disk, cnaf, ral, hrun, ?_, hall⟩
  simp only [List.map_cons, List.map_nil, Selector.get?_turl_of_seal? hplain,
    Selector.get?_turl_of_seal? hdisk, Selector.get?_turl_of_seal? hcnaf,
    Selector.get?_turl_of_seal? hral]
  rfl

end GridAccess
