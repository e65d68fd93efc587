import GridAccess.Catalogue.Inventory
import Mathlib.Data.List.Induction
import Mathlib.Data.List.Nodup

/-!
# Inventories after a history of changes

An inventory starts empty and is changed step by step. What it answers is determined by the history
of its changes: a replica is there if it was added and not removed since, in the order in which
replicas were added anew, and of several records, entries or elements with one key the last is
there.

## Main definitions

- `Inventory.Adds`, `Inventory.Removes` — what a change of replicas does, and leaves alone
- `Inventory.Change` — one change of an inventory
- `Inventory.apply`, `Inventory.after` — an inventory with one change made, and with a history
- `Stands` — something was made in a history, and not undone since
- `IsHeld`, `IsHeldSince` — a replica that is held after a history, and the change that put it there
- `IsLatest` — a record, entry or element that is the last one put under its key
- `Inventory.Answers` — what an inventory answers after a history

## Main statements

- `Inventory.holds_after_iff` — what each step makes and undoes decides what stands after a run
- `Inventory.IsShelf.mem_after_iff` — what was put last under each key is what is there
- `Inventory.pairwise_replicas_after` — replicas are in the order in which they were added anew
- `inventory_consistent` — an inventory answers as its history says, and changes as it should
-/

namespace GridAccess

namespace Inventory

/-! ## Changes of replicas -/

/-- Adding a replica adds it after the others of its file, unless it is there. -/
structure Adds (inventory : Inventory) (replica : Replica) (result : Bool × Inventory) : Prop where
  added_iff : result.1 = true ↔ replica ∉ inventory.replicasOf replica.guid
  own : result.1 = true →
    result.2.replicasOf replica.guid = inventory.replicasOf replica.guid ++ [replica]
  others : ∀ guid, guid ≠ replica.guid → result.2.replicasOf guid = inventory.replicasOf guid
  rest : result.2 = { inventory with replicas := result.2.replicas }
  unchanged : result.1 = false → result.2 = inventory

/-- Removing replicas removes those of one file at one location. -/
structure Removes (inventory : Inventory) (guid : Guid) (location : String)
    (result : Bool × Inventory) : Prop where
  removed_iff : result.1 = true ↔ ∃ replica ∈ inventory.replicasOf guid, replica.location = location
  own : result.2.replicasOf guid =
    (inventory.replicasOf guid).filter fun replica => replica.location ≠ location
  others : ∀ other, other ≠ guid → result.2.replicasOf other = inventory.replicasOf other
  rest : result.2 = { inventory with replicas := result.2.replicas }

theorem adds_addReplica (inventory : Inventory) (replica : Replica) :
    inventory.Adds replica (inventory.addReplica replica) := by
  have hmem : replica ∈ inventory.replicasOf replica.guid ↔ replica ∈ inventory.replicas := by
    rw [mem_replicasOf, and_iff_left rfl]
  rw [addReplica]
  split
  · next hheld =>
    exact {
      added_iff := iff_of_false Bool.false_ne_true (not_not_intro (hmem.2 hheld))
      own := nofun
      others := fun _ _ => rfl
      rest := rfl
      unchanged := fun _ => rfl }
  · next habsent =>
    exact {
      added_iff := iff_of_true rfl (mt hmem.1 habsent)
      own := fun _ => by simp [replicasOf]
      others := fun guid hguid => by simp [replicasOf, hguid.symm]
      rest := rfl
      unchanged := nofun }

theorem removes_removeReplicas (inventory : Inventory) (guid : Guid) (location : String) :
    inventory.Removes guid location (inventory.removeReplicas guid location) where
  removed_iff := by rw [removeReplicas_eq, decide_eq_true_eq]
  own := by
    rw [removeReplicas_eq, replicasOf, replicasOf, List.filter_filter, List.filter_filter]
    apply List.filter_congr
    intro replica _
    by_cases hguid : replica.guid = guid
    · simp [hguid]
    · simp [hguid]
  others other hother := replicasOf_removeReplicas_of_ne hother location
  rest := by rw [removeReplicas_eq]

/-! ## Histories -/

/-- One change of an inventory. -/
inductive Change where
  | putFile (file : FileRecord)
  | addReplica (replica : Replica)
  | removeReplicas (guid : Guid) (location : String)
  | putEntry (entry : CatalogueEntry)
  | putElement (element : StorageElement)
  | setDistance (site elementSite : String) (distance : Binary64)

/-- The inventory with one change made. -/
def apply (inventory : Inventory) : Change → Inventory
  | .putFile file => (inventory.putFile file).2
  | .addReplica replica => (inventory.addReplica replica).2
  | .removeReplicas guid location => (inventory.removeReplicas guid location).2
  | .putEntry entry => inventory.putEntry entry
  | .putElement element => inventory.putElement element
  | .setDistance site elementSite distance => inventory.setDistance site elementSite distance

/-- The inventory that a history of changes makes of the empty one. -/
def after (changes : List Change) : Inventory :=
  changes.foldl apply empty

theorem after_concat (changes : List Change) (change : Change) :
    after (changes ++ [change]) = (after changes).apply change := by
  rw [after, List.foldl_append]
  rfl

end Inventory

open Inventory (Change)

section Stands

variable {makes undoes : Change → Prop} {changes : List Change} {change : Change}

/-- A history made something, and did not undo it since. -/
def Stands (makes undoes : Change → Prop) (changes : List Change) : Prop :=
  ∃ before change rest, changes = before ++ change :: rest ∧ makes change ∧
    ∀ later ∈ rest, ¬undoes later

theorem not_stands_nil : ¬Stands makes undoes [] := by
  rintro ⟨before, change, rest, hnil, -⟩
  cases before <;> cases hnil

/-- The last change makes it, or leaves it as it was. -/
theorem stands_concat_iff : Stands makes undoes (changes ++ [change]) ↔
    makes change ∨ Stands makes undoes changes ∧ ¬undoes change := by
  constructor
  · rintro ⟨before, maker, rest, hchanges, hmakes, hkept⟩
    rcases List.eq_nil_or_concat rest with rfl | ⟨front, last, rfl⟩
    · obtain ⟨-, rfl⟩ := List.append_singleton_inj.1 hchanges
      exact Or.inl hmakes
    · rw [List.concat_eq_append, ← List.cons_append, ← List.append_assoc] at hchanges
      obtain ⟨rfl, rfl⟩ := List.append_singleton_inj.1 hchanges
      refine Or.inr ⟨⟨before, maker, front, rfl, hmakes, ?_⟩, hkept change (by simp)⟩
      intro later hlater
      exact hkept later (by simp [hlater])
  · rintro (hmakes | ⟨⟨before, maker, rest, rfl, hmakes, hkept⟩, hlast⟩)
    · exact ⟨changes, change, [], rfl, hmakes, by simp⟩
    · refine ⟨before, maker, rest ++ [change], by simp, hmakes, ?_⟩
      intro later hlater
      rcases List.mem_append.1 hlater with hlater | hlater
      · exact hkept later hlater
      · exact List.mem_singleton.1 hlater ▸ hlast

/-- What each step makes and undoes decides what stands after a run. -/
theorem Inventory.holds_after_iff (holds : Inventory → Prop) (hempty : ¬holds empty)
    (hstep : ∀ changes change, holds ((after changes).apply change) ↔
      makes change ∨ holds (after changes) ∧ ¬undoes change) (changes : List Change) :
    holds (after changes) ↔ Stands makes undoes changes := by
  induction changes using List.reverseRecOn with
  | nil => exact iff_of_false hempty not_stands_nil
  | append_singleton changes change ih => rw [after_concat, hstep, stands_concat_iff, ih]

end Stands

/-! ## Replicas -/

section Replicas

variable {inventory : Inventory} {changes : List Change} {change : Change}
  {replica : Replica} {place : Nat}

/-- A replica was added in a history and not removed since. -/
def IsHeld (changes : List Change) (replica : Replica) : Prop :=
  Stands (· = .addReplica replica) (· = .removeReplicas replica.guid replica.location) changes

/-- A replica was added by a change of a history when it was not there, and not removed since. -/
structure IsHeldSince (changes : List Change) (place : Nat) (replica : Replica) : Prop where
  added : changes[place]? = some (.addReplica replica)
  new : ¬IsHeld (changes.take place) replica
  kept : .removeReplicas replica.guid replica.location ∉ changes.drop (place + 1)

namespace Inventory

theorem mem_replicas_apply : replica ∈ (inventory.apply change).replicas ↔
    change = .addReplica replica ∨
      replica ∈ inventory.replicas ∧
        change ≠ .removeReplicas replica.guid replica.location := by
  cases change with
  | addReplica other =>
    rw [apply, addReplica]
    split
    · next hheld =>
      have hmem : Change.addReplica other = .addReplica replica → replica ∈ inventory.replicas := by
        intro hother
        cases hother
        exact hheld
      simp only [ne_eq, reduceCtorEq, not_false_eq_true, and_true]
      exact (or_iff_right_of_imp hmem).symm
    · simp [or_comm, eq_comm]
  | removeReplicas guid location =>
    have hother : Change.removeReplicas guid location ≠
        .removeReplicas replica.guid replica.location ↔
          ¬(replica.guid = guid ∧ replica.location = location) := by
      rw [ne_eq, Change.removeReplicas.injEq, eq_comm, eq_comm (a := location)]
    rw [apply, removeReplicas_eq, hother]
    simp only [List.mem_filter, decide_eq_true_eq, reduceCtorEq, false_or]
  | putFile | putEntry | putElement | setDistance =>
    simp [apply, putFile, putEntry, putElement, setDistance]

/-- A change adds one replica at the end, or adds none. -/
theorem replicas_apply (inventory : Inventory) (change : Change) :
    (∃ replica, change = .addReplica replica ∧ replica ∉ inventory.replicas ∧
        (inventory.apply change).replicas = inventory.replicas ++ [replica]) ∨
      (inventory.apply change).replicas.Sublist inventory.replicas := by
  cases change with
  | addReplica replica =>
    rw [apply, addReplica]
    split
    · exact Or.inr (List.Sublist.refl _)
    · next habsent => exact Or.inl ⟨replica, rfl, habsent, rfl⟩
  | removeReplicas guid location =>
    rw [apply, removeReplicas_eq]
    exact Or.inr List.filter_sublist
  | putFile | putEntry | putElement | setDistance => exact Or.inr (List.Sublist.refl _)

/-- The replicas after a history are those that were added and not removed since. -/
theorem mem_replicas_after (changes : List Change) :
    replica ∈ (after changes).replicas ↔ IsHeld changes replica :=
  holds_after_iff (fun inventory => replica ∈ inventory.replicas) (by simp [empty])
    (fun _ _ => mem_replicas_apply) changes

end Inventory

theorem isHeld_concat_iff : IsHeld (changes ++ [change]) replica ↔
    change = .addReplica replica ∨
      IsHeld changes replica ∧ change ≠ .removeReplicas replica.guid replica.location :=
  stands_concat_iff

theorem IsHeldSince.lt_length (h : IsHeldSince changes place replica) : place < changes.length :=
  (List.getElem?_eq_some_iff.1 h.added).1

/-- A replica is held on since the same change unless it is removed. -/
theorem IsHeldSince.concat (h : IsHeldSince changes place replica)
    (hchange : change ≠ .removeReplicas replica.guid replica.location) :
    IsHeldSince (changes ++ [change]) place replica where
  added := by rw [List.getElem?_append_left h.lt_length, h.added]
  new := by
    rw [List.take_append_of_le_length (Nat.le_of_lt h.lt_length)]
    exact h.new
  kept := by
    rw [List.drop_append_of_le_length h.lt_length]
    simpa [h.kept] using hchange.symm

theorem IsHeldSince.concat_of_isHeld (h : IsHeldSince changes place replica)
    (hheld : IsHeld (changes ++ [change]) replica) :
    IsHeldSince (changes ++ [change]) place replica := by
  rcases isHeld_concat_iff.1 hheld with rfl | ⟨-, hchange⟩
  · exact h.concat nofun
  · exact h.concat hchange

/-- A replica that is added when it is not there is held since then. -/
theorem isHeldSince_concat_self (h : ¬IsHeld changes replica) :
    IsHeldSince (changes ++ [.addReplica replica]) changes.length replica where
  added := by simp
  new := by simpa using h
  kept := by simp

/-- A replica is held since one of the changes. -/
theorem IsHeld.exists_isHeldSince (h : IsHeld changes replica) :
    ∃ place, IsHeldSince changes place replica := by
  induction changes using List.reverseRecOn with
  | nil => exact absurd h not_stands_nil
  | append_singleton changes change ih =>
    by_cases hheld : IsHeld changes replica
    · obtain ⟨place, hplace⟩ := ih hheld
      exact ⟨place, hplace.concat_of_isHeld h⟩
    · rcases isHeld_concat_iff.1 h with rfl | ⟨hbefore, -⟩
      · exact ⟨_, isHeldSince_concat_self hheld⟩
      · exact absurd hbefore hheld

/-- It is held since that one only. -/
theorem IsHeldSince.unique {other : Nat} (h : IsHeldSince changes place replica)
    (hother : IsHeldSince changes other replica) : place = other := by
  have hle : ∀ {i j : Nat}, IsHeldSince changes i replica → IsHeldSince changes j replica →
      ¬i < j := by
    intro i j hi hj hlt
    -- Added at `i` and not removed since, the replica would be there at `j` already.
    have hadded : (changes.take j)[i]? = some (.addReplica replica) := by
      rw [List.getElem?_take_of_lt hlt, hi.added]
    obtain ⟨hlength, hget⟩ := List.getElem?_eq_some_iff.1 hadded
    refine hj.new ⟨(changes.take j).take i, _, (changes.take j).drop (i + 1), ?_, rfl, ?_⟩
    · rw [← hget, ← List.drop_eq_getElem_cons hlength, List.take_append_drop]
    · rintro later hlater rfl
      rw [List.drop_take] at hlater
      exact hi.kept (List.mem_of_mem_take hlater)
  exact Nat.le_antisymm (Nat.not_lt.1 (hle hother h)) (Nat.not_lt.1 (hle h hother))

/-- Both replicas are held, the first since an earlier change. -/
def IsHeldBefore (changes : List Change) (a b : Replica) : Prop :=
  ∃ i j, i < j ∧ IsHeldSince changes i a ∧ IsHeldSince changes j b

/-- Replicas are in the order in which they were added anew. -/
theorem Inventory.pairwise_replicas_after (changes : List Change) :
    (after changes).replicas.Pairwise (IsHeldBefore changes) := by
  induction changes using List.reverseRecOn with
  | nil => exact List.Pairwise.nil
  | append_singleton changes change ih =>
    have hmem : ∀ replica ∈ (after (changes ++ [change])).replicas,
        IsHeld (changes ++ [change]) replica :=
      fun replica => (mem_replicas_after _).1
    rw [after_concat] at hmem ⊢
    rcases replicas_apply (after changes) change with ⟨replica, rfl, habsent, happend⟩ | hsublist
    · rw [happend] at hmem ⊢
      refine List.pairwise_append.2 ⟨?_, List.pairwise_singleton _ _, ?_⟩
      · refine ih.imp ?_
        rintro a b ⟨i, j, hlt, ha, hb⟩
        exact ⟨i, j, hlt, ha.concat nofun, hb.concat nofun⟩
      · intro other hother new hnew
        obtain rfl := List.mem_singleton.1 hnew
        rw [mem_replicas_after] at hother habsent
        obtain ⟨place, hplace⟩ := hother.exists_isHeldSince
        exact ⟨place, _, hplace.lt_length, hplace.concat nofun, isHeldSince_concat_self habsent⟩
    · refine (ih.sublist hsublist).imp_of_mem ?_
      rintro a b ha hb ⟨i, j, hlt, hi, hj⟩
      exact ⟨i, j, hlt, hi.concat_of_isHeld (hmem a ha), hj.concat_of_isHeld (hmem b hb)⟩

theorem Inventory.nodup_replicas_after (changes : List Change) :
    (after changes).replicas.Nodup := by
  refine (pairwise_replicas_after changes).imp ?_
  rintro a b ⟨i, j, hlt, hi, hj⟩ rfl
  exact absurd (hi.unique hj) (Nat.ne_of_lt hlt)

end Replicas

/-! ## Records under a key -/

/-- Something was put in a history, and nothing with its key was put since. -/
def IsLatest {α κ : Type} (put : α → Change) (key : α → κ) (changes : List Change) (a : α) : Prop :=
  Stands (· = put a) (fun later => ∃ other, later = put other ∧ key other = key a) changes

namespace Inventory

/-- A part of inventories that holds one thing for each key, which is replaced by the next one. -/
structure IsShelf {α κ : Type} (items : Inventory → List α) (put : α → Change) (key : α → κ) :
    Prop where
  injective : Function.Injective put
  items_empty : items empty = []
  mem_put : ∀ changes a b, b ∈ items ((after changes).apply (put a)) ↔
    b = a ∨ b ∈ items (after changes) ∧ key b ≠ key a
  items_apply : ∀ inventory change, (∀ a, change ≠ put a) →
    items (inventory.apply change) = items inventory

namespace IsShelf

variable {α κ : Type} {items : Inventory → List α} {put : α → Change} {key : α → κ}

/-- After a history a shelf holds what was put last under each key. -/
theorem mem_after_iff (h : IsShelf items put key) (changes : List Change) (a : α) :
    a ∈ items (after changes) ↔ IsLatest put key changes a := by
  refine holds_after_iff (fun inventory => a ∈ items inventory)
    (by simp [h.items_empty]) ?_ changes
  intro changes change
  by_cases hput : ∃ b, change = put b
  · obtain ⟨b, rfl⟩ := hput
    rw [h.mem_put, h.injective.eq_iff, eq_comm]
    have hreplaced : (∃ other, put b = put other ∧ key other = key a) ↔ key a = key b := by
      constructor
      · rintro ⟨other, hother, hkey⟩
        rw [h.injective hother, hkey]
      · intro hkey
        exact ⟨b, rfl, hkey.symm⟩
    rw [hreplaced]
  · have hother : ∀ b, change ≠ put b := fun b hb => hput ⟨b, hb⟩
    have hreplaced : ¬∃ other, change = put other ∧ key other = key a := by
      rintro ⟨other, rfl, -⟩
      exact hput ⟨other, rfl⟩
    rw [h.items_apply _ _ hother, or_iff_right (hother a), and_iff_left hreplaced]

/-- A shelf never holds two things with one key. -/
theorem eq_of_key_eq (h : IsShelf items put key) {changes : List Change} {a b : α}
    (ha : a ∈ items (after changes)) (hb : b ∈ items (after changes)) (hkey : key a = key b) :
    a = b := by
  induction changes using List.reverseRecOn with
  | nil => rw [after, List.foldl_nil, h.items_empty] at ha; cases ha
  | append_singleton changes change ih =>
    rw [after_concat] at ha hb
    by_cases hput : ∃ c, change = put c
    · obtain ⟨c, rfl⟩ := hput
      rcases (h.mem_put changes c a).1 ha with rfl | ⟨ha, hac⟩ <;>
        rcases (h.mem_put changes _ b).1 hb with rfl | ⟨hb, hbc⟩
      · rfl
      · exact absurd hkey.symm hbc
      · exact absurd hkey hac
      · exact ih ha hb
    · have hother : ∀ c, change ≠ put c := fun c hc => hput ⟨c, hc⟩
      rw [h.items_apply _ _ hother] at ha hb
      exact ih ha hb

/-- What is looked up under a key is what was put last under it. -/
theorem find?_after_eq_some_iff [DecidableEq κ] (h : IsShelf items put key)
    (changes : List Change) (k : κ) (a : α) :
    ((items (after changes)).find? fun b => key b = k) = some a ↔
      key a = k ∧ IsLatest put key changes a := by
  rw [← h.mem_after_iff]
  constructor
  · intro hfind
    exact ⟨by simpa using List.find?_some hfind, List.mem_of_find?_eq_some hfind⟩
  · rintro ⟨rfl, ha⟩
    cases hfind : (items (after changes)).find? fun b => key b = key a with
    | none => exact absurd (decide_eq_true rfl) (List.find?_eq_none.1 hfind a ha)
    | some b =>
      have hkey : key b = key a := by simpa using List.find?_some hfind
      rw [h.eq_of_key_eq (List.mem_of_find?_eq_some hfind) ha hkey]

end IsShelf

/-! ## What is kept after a run -/

/-- Changes keep the identifiers of files apart, and the entries and elements ascending. -/
structure IsSorted (inventory : Inventory) : Prop where
  files : inventory.files.Pairwise fun a b => a.guid ≠ b.guid
  entries : inventory.entries.Pairwise fun a b => a.path.chars < b.path.chars
  elements : inventory.elements.Pairwise fun a b => a.number < b.number

theorem IsSorted.apply {inventory : Inventory} (h : inventory.IsSorted) (change : Change) :
    (inventory.apply change).IsSorted := by
  cases change with
  | putFile file => exact { h with files := pairwise_putRecord file h.files }
  | addReplica replica =>
    rw [Inventory.apply, (inventory.adds_addReplica replica).rest]
    exact { h with }
  | removeReplicas guid location =>
    rw [Inventory.apply, (inventory.removes_removeReplicas guid location).rest]
    exact { h with }
  | putEntry entry => exact { h with entries := Ascending.pairwise_put entry h.entries }
  | putElement element => exact { h with elements := Ascending.pairwise_put element h.elements }
  | setDistance => exact { h with }

theorem isSorted_after (changes : List Change) : (after changes).IsSorted := by
  induction changes using List.reverseRecOn with
  | nil => exact ⟨.nil, .nil, .nil⟩
  | append_singleton changes change ih =>
    rw [after_concat]
    exact ih.apply change

theorem isShelf_files : IsShelf files Change.putFile FileRecord.guid where
  injective := fun _ _ => Change.putFile.inj
  items_empty := rfl
  mem_put changes a b := mem_putRecord_iff (isSorted_after changes).files
  items_apply inventory change h := by
    cases change with
    | putFile file => exact absurd rfl (h file)
    | addReplica replica => rw [apply, (inventory.adds_addReplica replica).rest]
    | _ => rfl

theorem isShelf_entries : IsShelf entries Change.putEntry CatalogueEntry.path where
  injective := fun _ _ => Change.putEntry.inj
  items_empty := rfl
  mem_put changes a b := by
    have hpath : b.path ≠ a.path ↔ b.path.chars ≠ a.path.chars :=
      not_congr ⟨congrArg _, LogicalPath.chars_injective⟩
    rw [hpath]
    exact Ascending.mem_put_iff (isSorted_after changes).entries
  items_apply inventory change h := by
    cases change with
    | putEntry entry => exact absurd rfl (h entry)
    | addReplica replica => rw [apply, (inventory.adds_addReplica replica).rest]
    | _ => rfl

theorem isShelf_elements : IsShelf elements Change.putElement StorageElement.number where
  injective := fun _ _ => Change.putElement.inj
  items_empty := rfl
  mem_put changes a b := Ascending.mem_put_iff (isSorted_after changes).elements
  items_apply inventory change h := by
    cases change with
    | putElement element => exact absurd rfl (h element)
    | addReplica replica => rw [apply, (inventory.adds_addReplica replica).rest]
    | _ => rfl

/-! ## Answers -/

/-- What an inventory answers after a history of changes. -/
structure Answers (inventory : Inventory) (changes : List Change) : Prop where
  mem_replicasOf : ∀ guid replica, replica ∈ inventory.replicasOf guid ↔
    replica.guid = guid ∧ IsHeld changes replica
  nodup_replicasOf : ∀ guid, (inventory.replicasOf guid).Nodup
  pairwise_replicasOf : ∀ guid, (inventory.replicasOf guid).Pairwise (IsHeldBefore changes)
  of_guidAt? : ∀ location guid, inventory.guidAt? location = some guid →
    ∃ replica ∈ inventory.replicasOf guid, replica.location = location
  guidAt?_eq_none_iff : ∀ location, inventory.guidAt? location = none ↔
    ∀ guid, ∀ replica ∈ inventory.replicasOf guid, replica.location ≠ location
  pairwise_pathsOf : ∀ guid, (inventory.pathsOf guid).Pairwise fun a b => a.before b
  mem_pathsOf : ∀ guid path, path ∈ inventory.pathsOf guid ↔
    ∃ entry, entry.path = path ∧ entry.guid = some guid ∧
      IsLatest .putEntry CatalogueEntry.path changes entry
  file?_eq_some_iff : ∀ guid file, inventory.file? guid = some file ↔
    file.guid = guid ∧ IsLatest .putFile FileRecord.guid changes file
  entry?_eq_some_iff : ∀ path entry, inventory.entry? path = some entry ↔
    entry.path = path ∧ IsLatest .putEntry CatalogueEntry.path changes entry
  element?_eq_some_iff : ∀ number element, inventory.element? number = some element ↔
    element.number = number ∧ IsLatest .putElement StorageElement.number changes element

theorem exists_of_guidAt?_eq_some {inventory : Inventory} {location : String} {guid : Guid}
    (h : inventory.guidAt? location = some guid) :
    ∃ replica ∈ inventory.replicasOf guid, replica.location = location := by
  obtain ⟨replica, hfind, rfl⟩ := Option.map_eq_some_iff.1 h
  have hlocation : replica.location = location := by simpa using List.find?_some hfind
  exact ⟨replica, mem_replicasOf.2 ⟨List.mem_of_find?_eq_some hfind, rfl⟩, hlocation⟩

theorem guidAt?_eq_none_iff {inventory : Inventory} {location : String} :
    inventory.guidAt? location = none ↔
      ∀ guid, ∀ replica ∈ inventory.replicasOf guid, replica.location ≠ location := by
  rw [guidAt?, Option.map_eq_none_iff, List.find?_eq_none]
  constructor
  · intro h guid replica hreplica
    simpa using h replica (mem_replicasOf.1 hreplica).1
  · intro h replica hreplica
    simpa using h replica.guid replica (mem_replicasOf.2 ⟨hreplica, rfl⟩)

/-- The answers after a history are those that it determines. -/
theorem answers_after (changes : List Change) : (after changes).Answers changes where
  mem_replicasOf guid replica := by rw [mem_replicasOf, mem_replicas_after, and_comm]
  nodup_replicasOf guid := (nodup_replicas_after changes).filter _
  pairwise_replicasOf guid := (pairwise_replicas_after changes).filter _
  of_guidAt? location guid := exists_of_guidAt?_eq_some
  guidAt?_eq_none_iff location := guidAt?_eq_none_iff
  pairwise_pathsOf guid := by
    refine List.pairwise_map.2 (((isSorted_after changes).entries.filter _).imp ?_)
    intro a b hlt
    exact decide_eq_true hlt
  mem_pathsOf guid path := by
    simp only [pathsOf, List.mem_map, List.mem_filter, decide_eq_true_eq,
      isShelf_entries.mem_after_iff]
    exact exists_congr fun entry => by rw [and_comm, and_comm (b := entry.guid = some guid)]
  file?_eq_some_iff := isShelf_files.find?_after_eq_some_iff changes
  entry?_eq_some_iff := isShelf_entries.find?_after_eq_some_iff changes
  element?_eq_some_iff := isShelf_elements.find?_after_eq_some_iff changes

end Inventory

/-- After every run of changes an inventory answers as the run says, and adding or removing a
replica does just that. -/
theorem inventory_consistent (changes : List Change) :
    (Inventory.after changes).Answers changes ∧
      (∀ replica, (Inventory.after changes).Adds replica
        ((Inventory.after changes).addReplica replica)) ∧
      ∀ guid location, (Inventory.after changes).Removes guid location
        ((Inventory.after changes).removeReplicas guid location) :=
  ⟨Inventory.answers_after changes, Inventory.adds_addReplica _,
    Inventory.removes_removeReplicas _⟩

/-- A replica that is removed and added again stands behind those that stayed. -/
example :
    let first : Replica := ⟨⟨7⟩, 1, "root://one.example//f"⟩
    let second : Replica := ⟨⟨7⟩, 2, "root://two.example//f"⟩
    (Inventory.after [.addReplica first, .addReplica second, .addReplica first,
      .removeReplicas ⟨7⟩ first.location, .addReplica first]).replicasOf ⟨7⟩ =
        [second, first] := by
  decide

end GridAccess
