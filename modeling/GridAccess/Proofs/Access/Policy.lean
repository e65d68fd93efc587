import GridAccess.Access.Authorization

/-!
# The policy of access

What is granted is said without the order in which the conditions are checked. A replica has to
belong to the file. Beyond that an administrator may do everything. Others read and write by the
permissions of their class and the restrictions of the element, read only what has not expired, and
delete only what they own.

## Main definitions

- `Principal.HasClass` — whose permissions apply to a principal
- `AccessRequest.IsPermitted` — the policy
- `AccessRequest.Alike` — requests that agree on what the policy is about

## Main statements

- `checkExpiry_eq_none_iff` — a file can be read until it expires, and without a clock if it never
  does
- `access_policy` — exactly what the policy permits is granted, whatever else is asked along
-/

namespace GridAccess

/-! ## Classes -/

namespace Principal

variable {principal : Principal} {owner group : String} {who : PermissionClass}

/-- Whose permissions apply to a principal. To own is decisive, then to hold the role of the group. -/
inductive HasClass (principal : Principal) (owner group : String) : PermissionClass → Prop where
  | owner (hname : principal.name = owner) : HasClass principal owner group .owner
  | group (hname : principal.name ≠ owner) (hrole : group ∈ principal.roles) :
      HasClass principal owner group .group
  | other (hname : principal.name ≠ owner) (hrole : group ∉ principal.roles) :
      HasClass principal owner group .other

theorem hasRole_iff {role : String} : principal.hasRole role = true ↔ role ∈ principal.roles := by
  rw [hasRole, List.contains_iff_mem]

theorem isAdmin_iff : principal.isAdmin = true ↔ adminRole ∈ principal.roles :=
  hasRole_iff

/-- Exactly one class applies. -/
theorem hasClass_iff : principal.HasClass owner group who ↔ principal.classFor owner group = who := by
  rw [classFor]
  constructor
  · rintro (hname | ⟨hname, hrole⟩ | ⟨hname, hrole⟩)
    · rw [if_pos hname]
    · rw [if_neg hname, if_pos (hasRole_iff.2 hrole)]
    · rw [if_neg hname, if_neg (not_congr hasRole_iff |>.2 hrole)]
  · rintro rfl
    split
    next hname => exact .owner hname
    next hname =>
      split
      next hrole => exact .group hname (hasRole_iff.1 hrole)
      next hrole => exact .other hname (not_congr hasRole_iff |>.1 hrole)

end Principal

/-! ## Conditions -/

/-- A mask of one bit asks for this bit. -/
theorem Permissions.allows_twoPow_iff {permissions : Permissions} {who : PermissionClass}
    (index : Fin 3) : permissions.allows who (BitVec.twoPow 3 index) = true ↔
      (permissions.bits who).getLsbD index = true := by
  have hbits : ∀ (bits : BitVec 3) (index : Fin 3),
      (bits &&& BitVec.twoPow 3 index == BitVec.twoPow 3 index) = bits.getLsbD index := by
    decide
  rw [allows, hbits]

theorem Permissions.allows_readBit_iff {permissions : Permissions} {who : PermissionClass} :
    permissions.allows who readBit = true ↔ (permissions.bits who).getLsbD 2 = true :=
  allows_twoPow_iff 2

theorem Permissions.allows_writeBit_iff {permissions : Permissions} {who : PermissionClass} :
    permissions.allows who writeBit = true ↔ (permissions.bits who).getLsbD 1 = true :=
  allows_twoPow_iff 1

/-- Names on a list that restricts an element only if it is not empty. -/
def IsAdmitted (names : List String) (user : String) : Prop :=
  names = [] ∨ user ∈ names

theorem StorageElement.admitsReader_iff {element : StorageElement} {user : String} :
    element.admitsReader user = true ↔ IsAdmitted element.exclusiveReaders user := by
  simp [admitsReader, IsAdmitted]

theorem StorageElement.admitsWriter_iff {element : StorageElement} {user : String} :
    element.admitsWriter user = true ↔ IsAdmitted element.exclusiveWriters user := by
  simp [admitsWriter, IsAdmitted]

/-- A file that does not expire, or that expires later than a clock shows. -/
def FileRecord.IsCurrent (file : FileRecord) (clock : Option UInt64) : Prop :=
  ∀ expiry, file.expires = some expiry → ∃ now, clock = some now ∧ now < expiry

theorem checkExpiry_eq_none_iff {clock : Option UInt64} {file : FileRecord} :
    checkExpiry clock file = none ↔ file.IsCurrent clock := by
  rw [FileRecord.IsCurrent]
  cases clock <;> cases hexpires : file.expires <;>
    simp [checkExpiry, FileRecord.isExpired, hexpires]

/-! ## Decisions -/

namespace AccessRequest

variable {clock : Option UInt64} {principal other : Principal} {request otherRequest : AccessRequest}

/-- What a principal may do with a file on an element. -/
inductive IsPermitted (clock : Option UInt64) (principal : Principal) (request : AccessRequest) :
    Prop where
  | admin (hrole : Principal.adminRole ∈ principal.roles)
  | read (hkind : request.kind = .read) (hcurrent : request.file.IsCurrent clock)
      (who : PermissionClass) (hclass : principal.HasClass request.file.owner request.file.group who)
      (hbit : (request.file.permissions.bits who).getLsbD 2 = true)
      (helement : IsAdmitted request.element.exclusiveReaders principal.name)
  | write (hkind : request.kind = .write)
      (who : PermissionClass) (hclass : principal.HasClass request.file.owner request.file.group who)
      (hbit : (request.file.permissions.bits who).getLsbD 1 = true)
      (helement : IsAdmitted request.element.exclusiveWriters principal.name)
  | delete (hkind : request.kind = .delete) (hname : principal.name = request.file.owner)

/-- Requests that agree on what the policy is about. They may differ in all else. -/
structure Alike (principal other : Principal) (request otherRequest : AccessRequest) : Prop where
  belongs : request.replica.guid = request.file.guid ↔
    otherRequest.replica.guid = otherRequest.file.guid
  admin : Principal.adminRole ∈ principal.roles ↔ Principal.adminRole ∈ other.roles
  kind : request.kind = otherRequest.kind
  expires : request.file.expires = otherRequest.file.expires
  name : principal.name = other.name
  owner : request.file.owner = otherRequest.file.owner
  group : request.file.group ∈ principal.roles ↔ otherRequest.file.group ∈ other.roles
  permissions : request.file.permissions = otherRequest.file.permissions
  readers : request.element.exclusiveReaders = otherRequest.element.exclusiveReaders
  writers : request.element.exclusiveWriters = otherRequest.element.exclusiveWriters

/-- The conditions on the kind are those of the policy for principals that are bound by them. -/
theorem checkKind_eq_none_iff (hadmin : Principal.adminRole ∉ principal.roles) :
    checkKind clock principal request = none ↔ request.IsPermitted clock principal := by
  constructor
  · intro h
    -- What was not denied has passed every check of its kind.
    have hclass := principal.hasClass_iff.2
      (rfl : principal.classFor request.file.owner request.file.group = _)
    cases hkind : request.kind with
    | read =>
      simp only [checkKind, hkind] at h
      split at h
      · cases h
      next hexpiry =>
      split at h
      · cases h
      next hbit =>
      split at h
      · cases h
      next helement =>
      rw [Bool.not_eq_true', Bool.not_eq_false] at hbit helement
      exact .read hkind (checkExpiry_eq_none_iff.1 hexpiry) _ hclass
        (Permissions.allows_readBit_iff.1 hbit) (StorageElement.admitsReader_iff.1 helement)
    | write =>
      simp only [checkKind, hkind] at h
      split at h
      · cases h
      next hbit =>
      split at h
      · cases h
      next helement =>
      rw [Bool.not_eq_true', Bool.not_eq_false] at hbit helement
      exact .write hkind _ hclass (Permissions.allows_writeBit_iff.1 hbit)
        (StorageElement.admitsWriter_iff.1 helement)
    | delete =>
      simp only [checkKind, hkind] at h
      split at h
      · cases h
      next hname => exact .delete hkind (Decidable.not_not.1 hname).symm
  · intro h
    cases h with
    | admin hrole => exact absurd hrole hadmin
    | read hkind hcurrent who hclass hbit helement =>
      rw [← Principal.hasClass_iff.1 hclass, ← Permissions.allows_readBit_iff] at hbit
      rw [← StorageElement.admitsReader_iff] at helement
      simp [checkKind, hkind, checkExpiry_eq_none_iff.2 hcurrent, hbit, helement]
    | write hkind who hclass hbit helement =>
      rw [← Principal.hasClass_iff.1 hclass, ← Permissions.allows_writeBit_iff] at hbit
      rw [← StorageElement.admitsWriter_iff] at helement
      simp [checkKind, hkind, hbit, helement]
    | delete hkind hname => simp [checkKind, hkind, hname]

theorem checkAccess_eq_none_iff : checkAccess clock principal request = none ↔
    request.replica.guid = request.file.guid ∧ request.IsPermitted clock principal := by
  rw [checkAccess]
  split
  next hforeign => simp [hforeign]
  next hbelongs =>
    rw [Decidable.not_not] at hbelongs
    split
    next hadmin => exact iff_of_true rfl ⟨hbelongs, .admin (Principal.isAdmin_iff.1 hadmin)⟩
    next hadmin =>
      rw [checkKind_eq_none_iff (not_congr Principal.isAdmin_iff |>.1 hadmin)]
      exact (and_iff_right hbelongs).symm

namespace Alike

theorem symm (h : Alike principal other request otherRequest) :
    Alike other principal otherRequest request where
  belongs := h.belongs.symm
  admin := h.admin.symm
  kind := h.kind.symm
  expires := h.expires.symm
  name := h.name.symm
  owner := h.owner.symm
  group := h.group.symm
  permissions := h.permissions.symm
  readers := h.readers.symm
  writers := h.writers.symm

theorem hasClass (h : Alike principal other request otherRequest) {who : PermissionClass}
    (hclass : principal.HasClass request.file.owner request.file.group who) :
    other.HasClass otherRequest.file.owner otherRequest.file.group who := by
  have hname := h.name
  have howner := h.owner
  cases hclass with
  | owner hown => exact .owner (by rw [← hname, ← howner, hown])
  | group hown hrole => exact .group (by rwa [← hname, ← howner]) (h.group.1 hrole)
  | other hown hrole => exact .other (by rwa [← hname, ← howner]) (mt h.group.2 hrole)

theorem isPermitted (h : Alike principal other request otherRequest)
    (hpermitted : request.IsPermitted clock principal) : otherRequest.IsPermitted clock other := by
  cases hpermitted with
  | admin hrole => exact .admin (h.admin.1 hrole)
  | read hkind hcurrent who hclass hbit helement =>
    rw [FileRecord.IsCurrent, h.expires] at hcurrent
    rw [h.permissions] at hbit
    rw [h.readers, h.name] at helement
    exact .read (h.kind ▸ hkind) hcurrent who (h.hasClass hclass) hbit helement
  | write hkind who hclass hbit helement =>
    rw [h.permissions] at hbit
    rw [h.writers, h.name] at helement
    exact .write (h.kind ▸ hkind) who (h.hasClass hclass) hbit helement
  | delete hkind hname => exact .delete (h.kind ▸ hkind) (by rw [← h.name, ← h.owner, hname])

end Alike

end AccessRequest

/-- An access is granted exactly if the replica belongs to the file and the policy permits it. So
requests that agree on what the policy is about are decided alike, whatever else they say. -/
theorem access_policy (clock : Option UInt64) (principal : Principal) (request : AccessRequest) :
    ((catalogueAuthorization clock).access principal request = none ↔
      request.replica.guid = request.file.guid ∧ request.IsPermitted clock principal) ∧
    ∀ other otherRequest, AccessRequest.Alike principal other request otherRequest →
      ((catalogueAuthorization clock).access other otherRequest = none ↔
        (catalogueAuthorization clock).access principal request = none) := by
  refine ⟨AccessRequest.checkAccess_eq_none_iff, ?_⟩
  intro other otherRequest halike
  have hdecision := @AccessRequest.checkAccess_eq_none_iff clock
  simp only [catalogueAuthorization, hdecision]
  constructor
  · rintro ⟨hbelongs, hpermitted⟩
    exact ⟨halike.belongs.2 hbelongs, halike.symm.isPermitted hpermitted⟩
  · rintro ⟨hbelongs, hpermitted⟩
    exact ⟨halike.belongs.1 hbelongs, halike.isPermitted hpermitted⟩

/-- Who may read a file of someone else may read it from elsewhere as well, and with more roles. -/
theorem access_policy_sample :
    let file := FileRecord.register ⟨1⟩ 42 none "alice" "alice"
    let request : AccessRequest := ⟨file, ⟨⟨1⟩, 1, "root://disk.example:1094//data/file"⟩,
      .basic 1 "ALICE::EXAMPLE::DISK" "root://disk.example:1094" "/data", .read⟩
    let otherRequest : AccessRequest := ⟨{ file with size := 7 },
      ⟨⟨1⟩, 2, "root://tape.example:1094//file"⟩,
      .basic 2 "ALICE::EXAMPLE::TAPE" "root://tape.example:1094" "/", .read⟩
    (catalogueAuthorization none).access (.account "bob") request = none ∧
      (catalogueAuthorization none).access ((Principal.account "bob").withRole "carol")
        otherRequest = none := by
  intro file request otherRequest
  obtain ⟨hpolicy, hsame⟩ := access_policy none (.account "bob") request
  have hgranted : (catalogueAuthorization none).access (.account "bob") request = none := by
    refine hpolicy.2 ⟨rfl, .read rfl ?_ .other ?_ ?_ (Or.inl rfl)⟩
    · intro expiry hexpires
      cases hexpires
    · exact .other (by decide) (by decide)
    · decide
  have halike : AccessRequest.Alike (.account "bob") ((Principal.account "bob").withRole "carol")
      request otherRequest :=
    ⟨by decide, by decide, rfl, rfl, by decide, rfl, by decide, rfl, rfl, rfl⟩
  exact ⟨hgranted, (hsame _ _ halike).2 hgranted⟩

end GridAccess
