import GridAccess.Proofs.Catalogue.Ranking
import GridAccess.Proofs.Selection.Granting
import GridAccess.Proofs.Selection.Quality
import GridAccess.Selection.Write

/-!
# The tickets for writing a file

A path may name a file if it does so already, or if it is free in a directory where the requester
may create entries. New replicas are put on the preferred storage elements in the order of their
names, then tag by tag on the nearest ones. Elements that may not hold the file are passed over, and
so are those that were chosen before, which do not count.

## Main definitions

- `Inventory.MayBind` — whether a path may name a file
- `newAmong` — the allowed elements of a list that were not chosen before
- `Inventory.mayHold` — whether a storage element may hold a new replica of a file
- `Inventory.chosen` — the elements that new replicas are put on

## Main statements

- `chooseUpTo_eq` — choosing takes the first of these
- `IsChoice.chooseUpTo` — what is chosen is allowed, and different from what was chosen before
- `Selector.candidates_on` — which elements are chosen
- `forWrite_tickets` — the tickets for them
-/

namespace GridAccess

/-! ## Choosing elements -/

section Choosing

variable {allowed : StorageElement → Bool} {chosen elements more : List StorageElement}

/-- The elements of a list that are allowed and not chosen yet, each number once. -/
def newAmong (allowed : StorageElement → Bool) :
    List StorageElement → List StorageElement → List StorageElement
  | _, [] => []
  | chosen, element :: rest =>
    if allowed element = true ∧ ∀ other ∈ chosen, other.number ≠ element.number then
      element :: newAmong allowed (chosen ++ [element]) rest
    else newAmong allowed chosen rest

theorem isNew_iff {element : StorageElement} :
    (allowed element && !isChosen chosen element) = true ↔
      allowed element = true ∧ ∀ other ∈ chosen, other.number ≠ element.number := by
  simp [isChosen]

/-- Choosing takes the first of the new elements. Elements that are passed over do not count. -/
theorem chooseUpTo_eq (allowed : StorageElement → Bool) (count : Nat)
    (chosen elements : List StorageElement) :
    chooseUpTo allowed count chosen elements =
      chosen ++ (newAmong allowed chosen elements).take count := by
  induction elements generalizing count chosen with
  | nil => cases count <;> simp [chooseUpTo, newAmong]
  | cons element rest ih =>
    cases count with
    | zero => simp [chooseUpTo]
    | succ count =>
      rw [chooseUpTo, newAmong]
      simp only [isNew_iff]
      split
      · rw [ih, List.take_succ_cons, List.append_assoc, List.singleton_append]
      · exact ih (count + 1) chosen

theorem newAmong_append (allowed : StorageElement → Bool)
    (chosen elements more : List StorageElement) :
    newAmong allowed chosen (elements ++ more) = newAmong allowed chosen elements ++
      newAmong allowed (chosen ++ newAmong allowed chosen elements) more := by
  induction elements generalizing chosen with
  | nil => simp [newAmong]
  | cons element rest ih =>
    rw [List.cons_append, newAmong, newAmong]
    split
    · rw [ih, List.cons_append, List.append_assoc, List.singleton_append]
    · exact ih chosen

theorem newAmong_sublist (allowed : StorageElement → Bool)
    (chosen elements : List StorageElement) :
    (newAmong allowed chosen elements).Sublist elements := by
  induction elements generalizing chosen with
  | nil => exact .slnil
  | cons element rest ih =>
    rw [newAmong]
    split
    · exact (ih _).cons_cons element
    · exact (ih chosen).cons element

theorem allowed_of_mem_newAmong {element : StorageElement}
    (h : element ∈ newAmong allowed chosen elements) : allowed element = true := by
  induction elements generalizing chosen with
  | nil => cases h
  | cons first rest ih =>
    rw [newAmong] at h
    split at h
    · next hnew =>
      rcases List.mem_cons.1 h with rfl | h
      · exact hnew.1
      · exact ih h
    · exact ih h

/-- What may have been chosen: allowed elements with different numbers. -/
structure IsChoice (allowed : StorageElement → Bool) (chosen : List StorageElement) : Prop where
  allowed : ∀ element ∈ chosen, allowed element = true
  nodup : (chosen.map StorageElement.number).Nodup

/-- Choosing more elements keeps to this. -/
theorem IsChoice.chooseUpTo (h : IsChoice allowed chosen) (count : Nat)
    (elements : List StorageElement) :
    IsChoice allowed (chooseUpTo allowed count chosen elements) where
  allowed element helement := by
    rw [chooseUpTo_eq] at helement
    rcases List.mem_append.1 helement with hheld | hnew
    · exact h.allowed element hheld
    · exact allowed_of_mem_newAmong (List.mem_of_mem_take hnew)
  nodup := chooseUpTo_numbers_nodup h.nodup

/-- One element after the other, the new ones of a list are chosen. -/
theorem foldl_chooseUpTo_one {α : Type} (allowed : StorageElement → Bool)
    (elementOf : α → Option StorageElement) (items : List α) (chosen : List StorageElement) :
    items.foldl (fun chosen item => chooseUpTo allowed 1 chosen (elementOf item).toList) chosen =
      chosen ++ newAmong allowed chosen (items.filterMap elementOf) := by
  induction items generalizing chosen with
  | nil => simp [newAmong]
  | cons item items ih =>
    -- An item stands for one element at most, so that choosing one takes all that is new.
    have hone : ((newAmong allowed chosen (elementOf item).toList).take 1) =
        newAmong allowed chosen (elementOf item).toList := by
      apply List.take_of_length_le
      refine (newAmong_sublist allowed chosen _).length_le.trans ?_
      cases elementOf item <;> simp
    have hitems : (item :: items).filterMap elementOf =
        (elementOf item).toList ++ items.filterMap elementOf := by
      rw [List.filterMap_cons]
      cases elementOf item <;> rfl
    rw [List.foldl_cons, ih, chooseUpTo_eq, hone, hitems, newAmong_append, List.append_assoc]

end Choosing

/-! ## Where a path may be bound -/

/-- A path may name a file: it names it already, or it is free and its directory, which is there,
may get new entries. -/
inductive Inventory.MayBind (inventory : Inventory) (authorization : Authorization)
    (principal : Principal) (path : LogicalPath) (guid : Guid) : Prop where
  | bound {entry : CatalogueEntry} (hentry : inventory.entry? path = some entry)
      (hguid : entry.guid = some guid)
  | free {parent : LogicalPath} {directory : CatalogueEntry}
      (hentry : inventory.entry? path = none) (hparent : path.parent? = some parent)
      (hdirectory : inventory.entry? parent = some directory)
      (hcreate : authorization.create principal directory = none)

/-- For a free path, only its directory decides. -/
theorem Inventory.mayBind_iff_of_free {inventory : Inventory} {authorization : Authorization}
    {principal : Principal} {path : LogicalPath} {guid : Guid}
    (hentry : inventory.entry? path = none) :
    inventory.MayBind authorization principal path guid ↔
      ∃ parent directory, path.parent? = some parent ∧ inventory.entry? parent = some directory ∧
        authorization.create principal directory = none := by
  constructor
  · rintro (⟨hbound, -⟩ | ⟨-, hparent, hdirectory, hcreate⟩)
    · rw [hentry] at hbound
      cases hbound
    · exact ⟨_, _, hparent, hdirectory, hcreate⟩
  · rintro ⟨parent, directory, hparent, hdirectory, hcreate⟩
    exact .free hentry hparent hdirectory hcreate

namespace Selector

variable {selector : Selector} {inventory : Inventory} {requester : Requester}
  {preferences : ElementPreferences} {requirements : QualityRequirements} {path : LogicalPath}
  {file : FileRecord} {guid : Guid}

/-- An inventory answers exactly whether a path may name a file. -/
theorem mayBind_on (selector : Selector) (inventory : Inventory) (requester : Requester)
    (path : LogicalPath) (guid : Guid) :
    ∃ answer, (selector.on inventory).mayBind requester path guid = .ok answer ∧
      (answer = true ↔
        inventory.MayBind selector.authorization requester.principal path guid) := by
  have hquery : ∀ path, (selector.on inventory).catalogue.entry path =
      .ok (inventory.entry? path) := fun _ => rfl
  simp only [mayBind, hquery, bind, Except.bind]
  cases hentry : inventory.entry? path with
  | some entry =>
    refine ⟨_, rfl, decide_eq_true_iff.trans ⟨fun hguid => .bound hentry hguid, ?_⟩⟩
    rintro (⟨hfound, hguid⟩ | ⟨hnone, -, -, -⟩)
    · rw [hentry] at hfound
      cases hfound
      exact hguid
    · rw [hentry] at hnone
      cases hnone
  | none =>
    rw [Inventory.mayBind_iff_of_free hentry]
    cases path.parent? with
    | none => exact ⟨false, rfl, by simp⟩
    | some parent =>
      cases hdirectory : inventory.entry? parent with
      | none => exact ⟨false, by simp only [hdirectory]; rfl, by simp [hdirectory]⟩
      | some directory =>
        refine ⟨_, by simp only [hdirectory]; rfl, Option.isNone_iff_eq_none.trans ?_⟩
        simp [hdirectory, on]

end Selector

/-! ## Where new replicas are put -/

/-- Whether a storage element may hold a new replica of a file: it is not ruled out, and it does not
hold one yet. -/
def Inventory.mayHold (inventory : Inventory) (preferences : ElementPreferences) (guid : Guid)
    (element : StorageElement) : Bool :=
  (∀ name ∈ preferences.excluded, ¬element.GoesBy name) ∧
    ∀ replica ∈ inventory.replicasOf guid, replica.element ≠ element.number

/-- The elements that new replicas are put on: the preferred ones in the order of their names, for
each the first that goes by it, then for each tag so many of the elements with the tag as are wanted,
or all if they are fewer. -/
def Inventory.chosen (inventory : Inventory) (preferences : ElementPreferences)
    (requirements : QualityRequirements) (guid : Guid) (nearest : String → List StorageElement) :
    List StorageElement :=
  let allowed := inventory.mayHold preferences guid
  requirements.counts.foldl
    (fun chosen wanted =>
      chosen ++ (newAmong allowed chosen (nearest wanted.1)).take wanted.2.toNat)
    (newAmong allowed [] (preferences.preferred.filterMap fun name =>
      inventory.elements.find? fun element => element.GoesBy name))

variable {selector : Selector} {inventory : Inventory} {requester : Requester}
  {preferences : ElementPreferences} {requirements : QualityRequirements} {path : LogicalPath}
  {file : FileRecord} {guid : Guid} {nearest : String → List StorageElement}

theorem Inventory.mayHold_eq_true_iff {element : StorageElement} :
    inventory.mayHold preferences guid element = true ↔
      (∀ name ∈ preferences.excluded, ¬element.GoesBy name) ∧
        ∀ replica ∈ inventory.replicasOf guid, replica.element ≠ element.number :=
  decide_eq_true_iff

/-- This is asked in two parts. -/
theorem Inventory.mayHold_eq (inventory : Inventory) {criteria : ProximityCriteria}
    (h : criteria.excluded = preferences.excluded) (guid : Guid) :
    inventory.mayHold preferences guid = fun element => !criteria.excludes element &&
      !((inventory.replicasOf guid).map Replica.element).contains element.number := by
  funext element
  rw [Bool.eq_iff_iff, mayHold_eq_true_iff, Bool.and_eq_true, Bool.not_eq_true',
    ← ProximityCriteria.admits_iff, ProximityCriteria.Admits, h]
  simp

theorem Inventory.elementNamed?_eq (inventory : Inventory) (name : String) :
    inventory.elementNamed? name =
      inventory.elements.find? fun element => element.GoesBy name := by
  simp only [elementNamed?, StorageElement.goesBy_iff, Bool.decide_eq_true]

theorem Inventory.elementsTagged_eq (inventory : Inventory) (tag : String) :
    inventory.elementsTagged tag =
      inventory.elements.filter fun element => element.Carries tag := by
  simp only [elementsTagged, StorageElement.carries_iff, Bool.decide_eq_true]

/-- The elements are chosen one after the other. -/
theorem Inventory.chosen_eq (inventory : Inventory) (preferences : ElementPreferences)
    (requirements : QualityRequirements) (guid : Guid) (nearest : String → List StorageElement) :
    inventory.chosen preferences requirements guid nearest =
      requirements.counts.foldl
        (fun chosen wanted => chooseUpTo (inventory.mayHold preferences guid) wanted.2.toNat chosen
          (nearest wanted.1))
        (preferences.preferred.foldl
          (fun chosen name => chooseUpTo (inventory.mayHold preferences guid) 1 chosen
            (inventory.elementNamed? name).toList) []) := by
  rw [foldl_chooseUpTo_one]
  simp only [chosen, chooseUpTo_eq, List.nil_append, elementNamed?_eq]

/-- Chosen elements may hold the file, and none is chosen twice. -/
theorem Inventory.isChoice_chosen (inventory : Inventory) (preferences : ElementPreferences)
    (requirements : QualityRequirements) (guid : Guid) (nearest : String → List StorageElement) :
    IsChoice (inventory.mayHold preferences guid)
      (inventory.chosen preferences requirements guid nearest) := by
  have hnone : IsChoice (inventory.mayHold preferences guid) [] := ⟨by simp, by simp⟩
  rw [chosen_eq]
  refine List.foldlRecOn _ _ (List.foldlRecOn _ _ hnone ?_) ?_
  · intro chosen h name _
    exact h.chooseUpTo 1 _
  · intro chosen h wanted _
    exact h.chooseUpTo _ _

/-- Selecting from an inventory chooses these elements. -/
theorem Selector.candidates_on
    (hnearest : ∀ tag, (requester.criteria { preferences with preferred := [] }).NearestFirst
      inventory.catalogue id (inventory.elementsTagged tag) (nearest tag)) :
    (selector.on inventory).candidates requester preferences requirements guid =
      .ok (inventory.chosen preferences requirements guid nearest) := by
  let allowed := inventory.mayHold preferences guid
  have hpreferred : (selector.on inventory).choosePreferred allowed preferences.preferred =
      .ok (preferences.preferred.foldl
        (fun chosen name => chooseUpTo allowed 1 chosen (inventory.elementNamed? name).toList)
        []) :=
    List.foldlM_pure
  have htagged : ∀ chosen, (selector.on inventory).chooseTagged allowed
      (requester.criteria { preferences with preferred := [] }) requirements chosen =
      .ok (requirements.counts.foldl
        (fun chosen wanted => chooseUpTo allowed wanted.2.toNat chosen (nearest wanted.1))
        chosen) := by
    have hrun : ∀ choose : List StorageElement → String × UInt64 →
        Except CatalogueFailure (List StorageElement),
        choose = (fun chosen wanted =>
          pure (chooseUpTo allowed wanted.2.toNat chosen (nearest wanted.1))) →
        ∀ chosen, requirements.counts.foldlM choose chosen = .ok (requirements.counts.foldl
          (fun chosen wanted => chooseUpTo allowed wanted.2.toNat chosen (nearest wanted.1))
          chosen) := by
      rintro _ rfl chosen
      exact List.foldlM_pure
    apply hrun
    funext chosen wanted
    rw [← (hnearest wanted.1).sort_eq]
    rfl
  have hcandidates : (selector.on inventory).candidates requester preferences requirements guid =
      ((selector.on inventory).choosePreferred allowed preferences.preferred >>=
        (selector.on inventory).chooseTagged allowed
          (requester.criteria { preferences with preferred := [] }) requirements) := by
    have hallowed : allowed = fun element =>
        !(requester.criteria { preferences with preferred := [] }).excludes element &&
          !((inventory.replicasOf guid).map Replica.element).contains element.number :=
      inventory.mayHold_eq rfl guid
    rw [hallowed]
    rfl
  rw [hcandidates, hpreferred, Inventory.chosen_eq]
  exact htagged _

namespace Selector

/-- The tickets for new replicas of a file on chosen elements. -/
def newTickets (selector : Selector) (requester : Requester) (path : LogicalPath)
    (file : FileRecord) (elements : List StorageElement) : List Grant :=
  Grant.firstOfLocations <| selector.granted requester .write none <|
    elements.map (newTarget file path)

/-- What is granted for writing, if the path may name the file. -/
theorem yields_forWrite (selector : Selector) (requester : Requester)
    (hbind : inventory.MayBind selector.authorization requester.principal path file.guid)
    (hnearest : ∀ tag, (requester.criteria { preferences with preferred := [] }).NearestFirst
      inventory.catalogue id (inventory.elementsTagged tag) (nearest tag)) :
    selector.Yields requester
      ((selector.on inventory).forWrite requester preferences requirements path file)
      (selector.newTickets requester path file
        (inventory.chosen preferences requirements file.guid nearest)) := by
  obtain ⟨answer, hanswer, hiff⟩ := selector.mayBind_on inventory requester path file.guid
  rw [hiff.2 hbind] at hanswer
  simp only [forWrite, hanswer, candidates_on hnearest, SelectionError.ofQuery_ok_bind, if_true]
  exact ((selector.on inventory).yields_grantAll requester .write none _).bind (.ok _)

/-- Nothing is granted for a path that may not name the file. -/
theorem forWrite_of_not_mayBind
    (hbind : ¬inventory.MayBind selector.authorization requester.principal path file.guid) :
    (selector.on inventory).forWrite requester preferences requirements path file = .ok [] := by
  obtain ⟨answer, hanswer, hiff⟩ := selector.mayBind_on inventory requester path file.guid
  cases answer with
  | true => exact absurd (hiff.1 rfl) hbind
  | false =>
    simp only [forWrite, hanswer, SelectionError.ofQuery_ok_bind, Bool.false_eq_true, if_false]
    rfl

/-- A ticket for a new replica is for a chosen element, and lets the replica be written there. -/
theorem exists_of_mem_newTickets {elements : List StorageElement} {grant : Grant}
    (h : grant ∈ selector.newTickets requester path file elements) :
    grant.element ∈ elements ∧
      grant.replica = ⟨file.guid, grant.element.number, grant.element.newLocation file.guid⟩ ∧
      grant.envelope = Envelope.build .write (newTarget file path grant.element) none := by
  obtain ⟨target, htarget, -, hseal⟩ :=
    mem_granted.1 ((Grant.firstOfLocations_sublist _).subset h)
  obtain ⟨element, helement, rfl⟩ := List.mem_map.1 htarget
  obtain ⟨hreplica, hgranted, henvelope, -⟩ := seal?_eq_some_iff.1 hseal
  have heq : grant.element = element := hgranted
  subst heq
  exact ⟨helement, hreplica, henvelope⟩

/-- If no element was chosen twice, no two tickets are for one element. -/
theorem nodup_newTickets (selector : Selector) (requester : Requester) (path : LogicalPath)
    (file : FileRecord) {elements : List StorageElement}
    (h : (elements.map StorageElement.number).Nodup) :
    ((selector.newTickets requester path file elements).map
      fun grant => grant.element.number).Nodup := by
  have hgranted : ((selector.granted requester .write none (elements.map (newTarget file path))).map
      fun grant => grant.element.number).Sublist (elements.map StorageElement.number) := by
    have hlocated := (selector.located_granted_sublist requester .write none
      (elements.map (newTarget file path))).map fun located => located.element.number
    rw [List.map_map, List.map_map, List.map_map] at hlocated
    exact hlocated
  have hfirst := (Grant.firstOfLocations_sublist (selector.granted requester .write none
    (elements.map (newTarget file path)))).map fun grant => grant.element.number
  exact h.sublist (hfirst.trans hgranted)

end Selector

/-- Elements with a tag are sorted for a requester by the site that it asks from, and without those
that it rules out. Which ones it prefers makes no difference. -/
theorem Inventory.nearestFirst_iff_isRanked {tag : String} {ranked : List StorageElement} :
    (requester.criteria { preferences with preferred := [] }).NearestFirst inventory.catalogue id
        (inventory.elementsTagged tag) ranked ↔
      ProximityCriteria.IsRanked ⟨requester.principal.site, [], preferences.excluded⟩
        inventory.catalogue id (inventory.elements.filter fun element => element.Carries tag)
        ranked := by
  rw [elementsTagged_eq]
  exact ProximityCriteria.nearestFirst_iff_isRanked

/-- The tickets for writing new replicas of a file. Without a path that may name the file there are
none. Otherwise the elements are chosen in the order of the preferred names and then of the tags, in
ascending order and for each tag nearest first; and the tickets are those of the chosen elements
that are not denied and whose ticket can be made, the first of each location. They are for different
elements, of which none is ruled out and none holds the file, and each lets a new replica be written
at the location that its element gives to the file. -/
theorem forWrite_tickets (h : selector.issuer.IsInTime requester.now)
    (hrequirements : requirements.Obtainable) (inventory : Inventory)
    (preferences : ElementPreferences) (path : LogicalPath) (file : FileRecord) :
    (¬inventory.MayBind selector.authorization requester.principal path file.guid →
      (selector.on inventory).forWrite requester preferences requirements path file = .ok []) ∧
    (inventory.MayBind selector.authorization requester.principal path file.guid →
      ∃ (ranked : String → List StorageElement) (tickets : List Grant),
        requirements.counts.Pairwise (fun a b => a.1 < b.1) ∧
        (∀ tag, ProximityCriteria.IsRanked ⟨requester.principal.site, [], preferences.excluded⟩
          inventory.catalogue id (inventory.elements.filter fun element => element.Carries tag)
          (ranked tag)) ∧
        (selector.on inventory).forWrite requester preferences requirements path file =
          .ok tickets ∧
        Grant.Keeps [] (selector.granted requester .write none
          ((inventory.chosen preferences requirements file.guid ranked).map fun element =>
            ⟨file, ⟨file.guid, element.number, element.newLocation file.guid⟩, element,
              some path⟩)) tickets ∧
        (tickets.map fun grant => grant.element.number).Nodup ∧
        ∀ grant ∈ tickets,
          (∀ name ∈ preferences.excluded, ¬grant.element.GoesBy name) ∧
          (∀ replica ∈ inventory.replicasOf file.guid,
            replica.element ≠ grant.element.number) ∧
          grant.replica =
            ⟨file.guid, grant.element.number, grant.element.newLocation file.guid⟩ ∧
          grant.envelope =
            Envelope.build .write ⟨file, grant.replica, grant.element, some path⟩ none ∧
          grant.envelope.access = .write) := by
  constructor
  · exact Selector.forWrite_of_not_mayBind
  · intro hbind
    let criteria := requester.criteria { preferences with preferred := [] }
    let ranked (tag : String) : List StorageElement :=
      criteria.sort inventory.catalogue id (inventory.elementsTagged tag)
    have hnearest : ∀ tag, criteria.NearestFirst inventory.catalogue id
        (inventory.elementsTagged tag) (ranked tag) :=
      fun tag => criteria.nearestFirst_sort _ _ _
    have hchosen := inventory.isChoice_chosen preferences requirements file.guid ranked
    refine ⟨ranked, _, hrequirements.ascending,
      fun tag => Inventory.nearestFirst_iff_isRanked.1 (hnearest tag),
      (selector.yields_forWrite requester hbind hnearest).eq_ok h,
      (Grant.keeps_nil_iff fun _ hgrant => Selector.hasLocation_of_mem_granted hgrant).2 rfl,
      selector.nodup_newTickets requester path file hchosen.nodup, ?_⟩
    intro grant hgrant
    obtain ⟨helement, hreplica, henvelope⟩ := Selector.exists_of_mem_newTickets hgrant
    obtain ⟨hexcluded, hholding⟩ :=
      Inventory.mayHold_eq_true_iff.1 (hchosen.allowed grant.element helement)
    refine ⟨hexcluded, hholding, hreplica, ?_, ?_⟩
    · rw [hreplica]
      exact henvelope
    · rw [henvelope, Envelope.access_build]

/-- A path of a file that is being written. -/
def samplePath : LogicalPath :=
  ⟨["alice".toList, "new".toList], by decide⟩

/-- A storage element with tags. -/
def taggedElement (number : ElementNumber) (name host : String) (tags : List String) :
    StorageElement :=
  { StorageElement.basic number name ("root://" ++ host ++ ".example:1094") "/data" with tags }

/-- A catalogue with a path for a file. Of its storage elements the third one is closed and the fourth
one holds the file already. -/
def sampleDestinations : Inventory where
  files := []
  replicas := [⟨⟨1⟩, 4, "root://gsi.example:1094//data/held"⟩]
  entries := [.file samplePath ⟨1⟩ "alice" "alice" .standard]
  elements := [taggedElement 1 "ALICE::EXAMPLE::DISK" "disk" ["disk"],
    taggedElement 2 "ALICE::FZK::TAPE" "fzk" ["tape"],
    taggedElement 3 "ALICE::EXAMPLE::CLOSED" "closed" ["tape"],
    taggedElement 4 "ALICE::GSI::TAPE" "gsi" ["tape"],
    taggedElement 5 "ALICE::RAL::TAPE" "ral" ["disk", "TAPE"],
    taggedElement 6 "ALICE::CNAF::TAPE" "cnaf" ["tape"],
    taggedElement 7 "ALICE::LUND::TAPE" "lund" ["tape"]]
  distances := [(Inventory.distanceKey "example" "gsi", ⟨0x3FD0000000000000⟩),
    (Inventory.distanceKey "example" "ral", ⟨0x3FE0000000000000⟩)]

/-- A client at the site of the first element that writes. -/
def siteWriter : Requester :=
  ⟨(Principal.account "alice").atSite "example", 0⟩

/-- The preferred element comes first. Then there is one element for the first tag. For the second tag
the element that is ruled out and the one that holds the file are passed over. The closed one counts,
but there is no ticket for it. -/
theorem forWrite_tickets_sample : ∃ cnaf disk ral,
    (sampleSelector.on sampleDestinations).forWrite siteWriter
      ⟨[" alice::cnaf::tape"], ["alice::fzk::tape "]⟩ ⟨[("disk", 1), ("tape", 2)]⟩ samplePath
      sampleTarget.file = .ok [cnaf, disk, ral] ∧
    [cnaf, disk, ral].map Grant.replica =
      [⟨⟨1⟩, 6, "root://cnaf.example:1094//data/01/00001/00000000-0000-0000-0000-000000000001"⟩,
        ⟨⟨1⟩, 1, "root://disk.example:1094//data/01/00001/00000000-0000-0000-0000-000000000001"⟩,
        ⟨⟨1⟩, 5, "root://ral.example:1094//data/01/00001/00000000-0000-0000-0000-000000000001"⟩] ∧
    ∀ grant ∈ [cnaf, disk, ral], grant.envelope.access = .write := by
  let preferences : ElementPreferences := ⟨[" alice::cnaf::tape"], ["alice::fzk::tape "]⟩
  let requirements : QualityRequirements := ⟨[("disk", 1), ("tape", 2)]⟩
  let guid := sampleTarget.file.guid
  let elements (numbers : List ElementNumber) := numbers.filterMap sampleDestinations.element?
  have hrequirements : requirements.Obtainable :=
    .add (.add .none (rfl : QualityRequirements.none.add "tape" 2 = _))
      (rfl : QualityRequirements.add ⟨[("tape", 2)]⟩ "disk" 1 = _)
  have hbind : sampleDestinations.MayBind sampleSelector.authorization siteWriter.principal
      samplePath guid :=
    .bound rfl rfl
  have htime : sampleSelector.issuer.IsInTime siteWriter.now := isInTime_sample
  obtain ⟨ranked, tickets, -, hranked, hrun, hkept, -, hall⟩ :=
    (forWrite_tickets htime hrequirements sampleDestinations preferences samplePath
      sampleTarget.file).2 hbind
  have hdisk : ranked "disk" = elements [1, 5] := by
    rw [← ProximityCriteria.isRanked_iff_insertionSort.1 (hranked "disk")]
    decide +kernel
  have htape : ranked "tape" = elements [3, 4, 5, 6, 7] := by
    rw [← ProximityCriteria.isRanked_iff_insertionSort.1 (hranked "tape")]
    decide +kernel
  have hchosen : sampleDestinations.chosen preferences requirements guid ranked =
      elements [6, 1, 3, 5] := by
    simp only [Inventory.chosen, requirements, List.foldl_cons, List.foldl_nil, hdisk, htape]
    decide +kernel
  rw [hchosen, Grant.keeps_nil_iff fun _ => Selector.hasLocation_of_mem_granted] at hkept
  have hissuer : sampleSelector.issuer = sampleIssuer := rfl
  have hgranted := forall₂_granted_of_sampleIssuer hissuer (rfl : siteWriter.now = 0) .write none
    (show ∀ target ∈ (elements [6, 1, 3, 5]).map (Selector.newTarget sampleTarget.file samplePath),
      target.element.policy = .signed by decide)
  -- The third one is not permitted.
  change List.Forall₂ _ [_, _, _] _ at hgranted
  simp only [List.forall₂_cons_left_iff, List.forall₂_nil_left_iff] at hgranted
  obtain ⟨cnaf, _, hcnaf, ⟨disk, _, hdisk, ⟨ral, _, hral, rfl, rfl⟩, rfl⟩, hgrants⟩ := hgranted
  have hlocations :
      cnaf.location =
        "root://cnaf.example:1094//data/01/00001/00000000-0000-0000-0000-000000000001" ∧
      disk.location =
        "root://disk.example:1094//data/01/00001/00000000-0000-0000-0000-000000000001" ∧
      ral.location =
        "root://ral.example:1094//data/01/00001/00000000-0000-0000-0000-000000000001" :=
    ⟨(Selector.location_of_seal? hcnaf).trans (by decide +kernel),
      (Selector.location_of_seal? hdisk).trans (by decide +kernel),
      (Selector.location_of_seal? hral).trans (by decide +kernel)⟩
  have htickets : [cnaf, disk, ral] = tickets := by
    rw [← hkept]
    refine Eq.trans ?_ (congrArg Grant.firstOfLocations hgrants.symm)
    simp [Grant.firstOfLocations, hlocations]
  subst htickets
  refine ⟨cnaf, disk, ral, hrun, ?_, ?_⟩
  · rw [List.map_cons, List.map_cons, List.map_cons, List.map_nil,
      (Selector.seal?_eq_some_iff.1 hcnaf).1, (Selector.seal?_eq_some_iff.1 hdisk).1,
      (Selector.seal?_eq_some_iff.1 hral).1]
    decide +kernel
  · intro grant hgrant
    obtain ⟨-, -, -, -, haccess⟩ := hall grant hgrant
    exact haccess

end GridAccess
