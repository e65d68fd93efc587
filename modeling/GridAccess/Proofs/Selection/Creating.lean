import GridAccess.Proofs.Access.Policy
import GridAccess.Proofs.Selection.Writing

/-!
# Creating entries

Below a directory new entries may be created by those who may write into it. The role that lifts all
restrictions lifts this one as well: an administrator may create entries below a regular file, and is
then given tickets for writing there.

## Main definitions

- `CatalogueEntry.IsWritableBy` — who may write into a directory

## Main statements

- `checkCreate_eq_none_iff` — below which entries new ones may be created
- `Selector.forWrite_below_file`, `Selector.forWrite_of_admin` — the tickets for a free path
- `new_entry_policy` — what this means below a regular file
-/

namespace GridAccess

open Principal (adminRole)

/-- A principal may write into a directory by the permissions of its class. -/
def CatalogueEntry.IsWritableBy (entry : CatalogueEntry) (principal : Principal) : Prop :=
  ∃ who, principal.HasClass entry.owner entry.group who ∧
    (entry.permissions.bits who).getLsbD 1 = true

/-- New entries may be created below everything by an administrator, and otherwise below the
directories that the principal may write into. -/
theorem checkCreate_eq_none_iff {principal : Principal} {parent : CatalogueEntry} :
    checkCreate principal parent = none ↔ adminRole ∈ principal.roles ∨
      parent.isDirectory = true ∧ parent.IsWritableBy principal := by
  have hwritable : parent.IsWritableBy principal ↔ parent.permissions.allows
      (principal.classFor parent.owner parent.group) Permissions.writeBit = true := by
    rw [Permissions.allows_writeBit_iff]
    constructor
    · rintro ⟨who, hclass, hbit⟩
      rwa [Principal.hasClass_iff.1 hclass]
    · intro hbit
      exact ⟨_, Principal.hasClass_iff.2 rfl, hbit⟩
  -- The role is looked at before the kind of the entry, so the second case is about others only.
  rw [checkCreate, hwritable, ← Principal.isAdmin_iff]
  split
  next hadmin => simp [hadmin]
  next hadmin =>
    split
    next hfile =>
      rw [Bool.not_eq_true'] at hfile
      simp [hadmin, hfile]
    next hdirectory =>
      rw [Bool.not_eq_true', Bool.not_eq_false] at hdirectory
      simp [hadmin, hdirectory]

/-! ## Below a regular file -/

section Below

variable {selector : Selector} {inventory : Inventory} {requester : Requester}
  {clock : Option UInt64} {preferences : ElementPreferences} {requirements : QualityRequirements}
  {path parentPath : LogicalPath} {file : FileRecord} {parent : CatalogueEntry}
  {nearest : String → List StorageElement}

/-- An administrator may write a new replica everywhere. -/
theorem Selector.permits_newTarget_of_admin
    (hauthorization : selector.authorization = catalogueAuthorization clock)
    (hadmin : adminRole ∈ requester.principal.roles) (path : LogicalPath) (file : FileRecord)
    (element : StorageElement) :
    selector.permits requester .write (newTarget file path element) = true := by
  rw [permits_eq_true_iff, hauthorization]
  exact AccessRequest.checkAccess_eq_none_iff.2 ⟨rfl, .admin hadmin⟩

/-- For an administrator there is a ticket for each chosen element whose ticket can be made. -/
theorem Selector.newTickets_of_admin
    (hauthorization : selector.authorization = catalogueAuthorization clock)
    (hadmin : adminRole ∈ requester.principal.roles) (path : LogicalPath) (file : FileRecord)
    (elements : List StorageElement) :
    selector.newTickets requester path file elements =
      Grant.firstOfLocations ((elements.map (newTarget file path)).filterMap
        (selector.seal? requester .write none)) := by
  have hpermitted : (elements.map (newTarget file path)).filter
      (selector.permits requester .write) = elements.map (newTarget file path) := by
    rw [List.filter_eq_self]
    intro target htarget
    obtain ⟨element, -, rfl⟩ := List.mem_map.1 htarget
    exact permits_newTarget_of_admin hauthorization hadmin path file element
  rw [newTickets, granted, hpermitted]

/-- Below an entry that is not a directory nobody else gets a ticket. -/
theorem Selector.forWrite_below_file
    (hauthorization : selector.authorization = catalogueAuthorization clock)
    (hentry : inventory.entry? path = none) (hparent : path.parent? = some parentPath)
    (hfound : inventory.entry? parentPath = some parent) (hfile : parent.isDirectory = false)
    (hadmin : adminRole ∉ requester.principal.roles) :
    (selector.on inventory).forWrite requester preferences requirements path file = .ok [] := by
  apply forWrite_of_not_mayBind
  rw [Inventory.mayBind_iff_of_free hentry, hauthorization]
  rintro ⟨_, other, hother, hentered, hcreate⟩
  rw [hparent, Option.some.injEq] at hother
  rw [← hother, hfound, Option.some.injEq] at hentered
  subst hentered
  rcases checkCreate_eq_none_iff.1 hcreate with hrole | ⟨hdirectory, -⟩
  · exact hadmin hrole
  · rw [hfile] at hdirectory
    cases hdirectory

/-- Below any entry an administrator gets the tickets for the chosen elements. -/
theorem Selector.forWrite_of_admin
    (hauthorization : selector.authorization = catalogueAuthorization clock)
    (htime : selector.issuer.IsInTime requester.now)
    (hentry : inventory.entry? path = none) (hparent : path.parent? = some parentPath)
    (hfound : inventory.entry? parentPath = some parent)
    (hadmin : adminRole ∈ requester.principal.roles)
    (hnearest : ∀ tag, (requester.criteria { preferences with preferred := [] }).NearestFirst
      inventory.catalogue id (inventory.elementsTagged tag) (nearest tag)) :
    (selector.on inventory).forWrite requester preferences requirements path file =
      .ok (Grant.firstOfLocations
        (((inventory.chosen preferences requirements file.guid nearest).map
          (newTarget file path)).filterMap (selector.seal? requester .write none))) := by
  have hbind : inventory.MayBind selector.authorization requester.principal path file.guid := by
    rw [hauthorization]
    exact .free hentry hparent hfound (checkCreate_eq_none_iff.2 (Or.inl hadmin))
  rw [← newTickets_of_admin hauthorization hadmin]
  exact (selector.yields_forWrite requester hbind hnearest).eq_ok htime

end Below

/-- New entries may be created by an administrator below every entry, and by others below the
directories that they may write into. So for a free path below an entry that is not a directory there
is no ticket, except for an administrator: then there is one for each chosen element whose ticket can
be made. -/
theorem new_entry_policy {selector : Selector} {requester : Requester} {clock : Option UInt64}
    (hauthorization : selector.authorization = catalogueAuthorization clock)
    (htime : selector.issuer.IsInTime requester.now) (inventory : Inventory)
    (preferences : ElementPreferences) (requirements : QualityRequirements) (path : LogicalPath)
    (file : FileRecord) :
    (∀ principal parent, checkCreate principal parent = none ↔
      adminRole ∈ principal.roles ∨ parent.isDirectory = true ∧ parent.IsWritableBy principal) ∧
    ∀ parentPath parent, inventory.entry? path = none → path.parent? = some parentPath →
      inventory.entry? parentPath = some parent → parent.isDirectory = false →
      (adminRole ∉ requester.principal.roles →
        (selector.on inventory).forWrite requester preferences requirements path file =
          .ok []) ∧
      (adminRole ∈ requester.principal.roles → ∃ nearest : String → List StorageElement,
        (∀ tag, (requester.criteria { preferences with preferred := [] }).NearestFirst
          inventory.catalogue id (inventory.elementsTagged tag) (nearest tag)) ∧
        (selector.on inventory).forWrite requester preferences requirements path file =
          .ok (Grant.firstOfLocations
            (((inventory.chosen preferences requirements file.guid nearest).map
              (Selector.newTarget file path)).filterMap
                (selector.seal? requester .write none)))) := by
  refine ⟨fun _ _ => checkCreate_eq_none_iff, ?_⟩
  intro parentPath parent hentry hparent hfound hfile
  constructor
  · exact Selector.forWrite_below_file hauthorization hentry hparent hfound hfile
  · intro hadmin
    have hnearest : ∀ tag, (requester.criteria { preferences with preferred := [] }).NearestFirst
        inventory.catalogue id (inventory.elementsTagged tag) _ :=
      fun tag => ProximityCriteria.nearestFirst_sort _ _ _ _
    exact ⟨_, hnearest,
      Selector.forWrite_of_admin hauthorization htime hentry hparent hfound hadmin hnearest⟩

/-- The sample with decisions by what the catalogue says. -/
def boundSelector : Selector :=
  { sampleSelector with authorization := catalogueAuthorization none }

theorem authorization_boundSelector :
    boundSelector.authorization = catalogueAuthorization none :=
  rfl

/-- A regular file above the path of the sample. -/
def sampleParent : CatalogueEntry :=
  .file ⟨["alice".toList], by decide⟩ ⟨2⟩ "alice" "alice" .standard

/-- A catalogue with a disk and a tape, and a path for a file that they do not hold yet. -/
def samplePlaces : Inventory where
  files := []
  replicas := []
  entries := [.file samplePath ⟨1⟩ "alice" "alice" .standard]
  elements := [sampleTarget.element,
    (StorageElement.basic 2 "ALICE::EXAMPLE::TAPE" "root://tape.example:1094" "/data").withTags
      ["tape"]]
  distances := []

/-- A catalogue with that file, where the path is free. -/
def obstructedPlaces : Inventory :=
  { samplePlaces with entries := [sampleParent] }

theorem new_entry_policy_sample :
    checkCreate (.account "alice") sampleParent ≠ none ∧
      (boundSelector.on obstructedPlaces).forWrite sampleRequester ⟨["ALICE::EXAMPLE::DISK"], []⟩
        .none samplePath sampleTarget.file = .ok [] := by
  obtain ⟨hcreate, hbelow⟩ := new_entry_policy authorization_boundSelector isInTime_sample
    obstructedPlaces ⟨["ALICE::EXAMPLE::DISK"], []⟩ .none samplePath sampleTarget.file
  have hbound : adminRole ∉ sampleRequester.principal.roles := by decide
  constructor
  · intro hgranted
    rcases (hcreate (.account "alice") sampleParent).1 hgranted with hrole | ⟨hdirectory, -⟩
    · exact hbound hrole
    · cases hdirectory
  · exact (hbelow sampleParent.path sampleParent (by decide) (by decide) (by decide) rfl).1 hbound

/-- An administrator is given a ticket for a new file below a regular file. -/
theorem file_created_below_file :
    let admin : Requester := ⟨(Principal.account "alice").withRole adminRole, 0⟩
    checkCreate admin.principal sampleParent = none ∧ sampleParent.isDirectory = false ∧
      obstructedPlaces.entry? samplePath = none ∧
      samplePath.parent? = some sampleParent.path ∧
      obstructedPlaces.entry? sampleParent.path = some sampleParent ∧
      ∃ grant rest, (boundSelector.on obstructedPlaces).forWrite admin
        ⟨["ALICE::EXAMPLE::DISK"], []⟩ .none samplePath sampleTarget.file =
          .ok (grant :: rest) := by
  intro admin
  have hadmin : adminRole ∈ admin.principal.roles := by decide
  have hfree : obstructedPlaces.entry? samplePath = none := by decide
  have hparent : samplePath.parent? = some sampleParent.path := by decide
  have hfound : obstructedPlaces.entry? sampleParent.path = some sampleParent := by decide
  have hnearest : ∀ tag, (admin.criteria ⟨[], []⟩).NearestFirst obstructedPlaces.catalogue id
      (obstructedPlaces.elementsTagged tag) _ :=
    fun tag => ProximityCriteria.nearestFirst_sort _ _ _ _
  let preferences : ElementPreferences := ⟨["ALICE::EXAMPLE::DISK"], []⟩
  have hrun : (boundSelector.on obstructedPlaces).forWrite admin preferences .none samplePath
      sampleTarget.file = _ :=
    Selector.forWrite_of_admin authorization_boundSelector isInTime_sample hfree hparent hfound
      hadmin hnearest
  have hchosen : obstructedPlaces.chosen preferences .none
      sampleTarget.file.guid (fun tag => (admin.criteria ⟨[], []⟩).sort obstructedPlaces.catalogue
        id (obstructedPlaces.elementsTagged tag)) = [sampleTarget.element] :=
    rfl
  have hissuer : boundSelector.issuer = sampleIssuer := rfl
  obtain ⟨grant, hseal⟩ : ∃ grant, boundSelector.seal? admin .write none
      (Selector.newTarget sampleTarget.file samplePath sampleTarget.element) = some grant :=
    exists_seal?_of_sampleIssuer hissuer rfl .write none _ rfl
  rw [hchosen, List.map_singleton, List.filterMap_cons_some hseal, List.filterMap_nil] at hrun
  exact ⟨checkCreate_eq_none_iff.2 (Or.inl hadmin), rfl, hfree, hparent, hfound, grant, _, hrun⟩

end GridAccess
