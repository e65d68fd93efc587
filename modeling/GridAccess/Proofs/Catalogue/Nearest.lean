import GridAccess.Catalogue.Inventory
import GridAccess.Catalogue.Proximity
import Mathlib.Data.List.Basic

/-!
# Nearest first

What it means for items to be sorted by proximity is said without saying how they are sorted: the
items that are not ruled out, in ascending order of their ranks, where items of one rank keep the
order they had. This determines the sorted list.

## Main definitions

- `StableSort` — a list in ascending order, where items of one place keep their order
- `ProximityCriteria.NearestFirst` — the items that are not ruled out, sorted by rank
- `Inventory.located` — replicas with the storage elements that an inventory knows
- `Inventory.IsNearest` — those of them that are not ruled out, sorted by rank

## Main statements

- `StableSort.eq` — there is one such list
- `StableSort.filter` — leaving items out before sorting is leaving them out afterwards
- `StableSort.sublist` — what is left of the items keeps its order, whatever is taken away
- `ProximityCriteria.NearestFirst.sort_eq` — items that stand nearest first are what sorting gives
- `Inventory.nearestReplicas_catalogue` — so are the replicas that an inventory answers
-/

namespace GridAccess

/-! ## Stable sorting -/

section StableSort

variable {α : Type} {le : α → α → Bool} {items part sorted other : List α}

/-- The items in ascending order, where those that were in ascending order already keep it. -/
structure StableSort (le : α → α → Bool) (items sorted : List α) : Prop where
  perm : sorted.Perm items
  ascending : sorted.Pairwise fun a b => le a b
  stable : ∀ part : List α, part.Pairwise (fun a b => le a b) → part.Sublist items →
    part.Sublist sorted

/-- Whether two items have one place. -/
def isLevel (le : α → α → Bool) (a b : α) : Bool :=
  le a b && le b a

theorem isLevel_self (htotal : ∀ a b, le a b || le b a) (a : α) : isLevel le a a = true := by
  simpa [isLevel] using htotal a a

theorem StableSort.mem_iff (h : StableSort le items sorted) {item : α} :
    item ∈ sorted ↔ item ∈ items :=
  h.perm.mem_iff

/-- Items that are all of one place stand as they stood before. -/
theorem StableSort.filter_eq (h : StableSort le items sorted) {keep : α → Bool}
    (hkeep : ∀ a b, keep a → keep b → le a b) : sorted.filter keep = items.filter keep := by
  have hlevel : (items.filter keep).Pairwise fun a b => le a b := by
    refine List.pairwise_of_forall_mem_list ?_
    intro a ha b hb
    exact hkeep a b (List.mem_filter.1 ha).2 (List.mem_filter.1 hb).2
  have hsub := (h.stable _ hlevel List.filter_sublist).filter keep
  simp only [List.filter_filter, Bool.and_self] at hsub
  exact (hsub.eq_of_length (h.perm.filter _).length_eq.symm).symm

theorem StableSort.filter_isLevel (h : StableSort le items sorted)
    (htrans : ∀ a b c, le a b → le b c → le a c) (place : α) :
    sorted.filter (isLevel le place) = items.filter (isLevel le place) := by
  apply h.filter_eq
  intro a b ha hb
  exact htrans a place b (Bool.and_eq_true_iff.1 ha).2 (Bool.and_eq_true_iff.1 hb).1

/-- If an ascending list starts behind a place, it has no items of that place. -/
theorem filter_isLevel_eq_nil (htrans : ∀ a b c, le a b → le b c → le a c) {a place : α}
    {rest : List α} (hsorted : (a :: rest).Pairwise fun a b => le a b) (hle : le place a)
    (hlevel : isLevel le place a = false) : (a :: rest).filter (isLevel le place) = [] := by
  rw [List.filter_eq_nil_iff]
  rintro b hb hplace
  rcases List.mem_cons.1 hb with rfl | hb
  · rw [hplace] at hlevel
    cases hlevel
  · have hab := (List.pairwise_cons.1 hsorted).1 b hb
    have hback := htrans a b place hab (Bool.and_eq_true_iff.1 hplace).2
    rw [isLevel, hle, hback] at hlevel
    cases hlevel

theorem subset_of_filter_isLevel (htotal : ∀ a b, le a b || le b a)
    (h : ∀ a, (sorted.filter (isLevel le a)).Sublist (other.filter (isLevel le a))) :
    sorted ⊆ other := by
  intro a ha
  have hmem := (h a).subset (List.mem_filter.2 ⟨ha, isLevel_self htotal a⟩)
  exact (List.mem_filter.1 hmem).1

/-- Of two ascending lists one is a part of the other if this holds for the items of each place. -/
theorem sublist_of_filter_isLevel (htrans : ∀ a b c, le a b → le b c → le a c)
    (htotal : ∀ a b, le a b || le b a) (hsorted : sorted.Pairwise fun a b => le a b)
    (hother : other.Pairwise fun a b => le a b)
    (h : ∀ a, (sorted.filter (isLevel le a)).Sublist (other.filter (isLevel le a))) :
    sorted.Sublist other := by
  induction other generalizing sorted with
  | nil =>
    rw [List.subset_nil.1 (subset_of_filter_isLevel htotal h)]
  | cons b rest ih =>
    cases sorted with
    | nil => exact List.nil_sublist _
    | cons a more =>
      rw [List.pairwise_cons] at hother
      by_cases hab : a = b
      · subst hab
        have hmore : ∀ c, (more.filter (isLevel le c)).Sublist (rest.filter (isLevel le c)) := by
          intro c
          have hc := h c
          rw [List.filter_cons, List.filter_cons] at hc
          split at hc
          · exact List.cons_sublist_cons.1 hc
          · exact hc
        exact (ih (List.pairwise_cons.1 hsorted).2 hother.2 hmore).cons_cons a
      · -- The first item stands in the rest of the other list, so it does not come before `b`.
        have hba : le b a := by
          rcases List.mem_cons.1 (subset_of_filter_isLevel htotal h List.mem_cons_self) with heq | hrest
          · exact absurd heq hab
          · exact hother.1 a hrest
        refine (ih hsorted hother.2 ?_).cons b
        intro c
        have hc := h c
        cases hcb : isLevel le c b with
        | false => rwa [List.filter_cons_of_neg (l := rest) (by simp [hcb])] at hc
        | true =>
          rw [List.filter_cons_of_pos (l := rest) hcb] at hc
          cases hca : isLevel le c a with
          | false =>
            have hcle := htrans c b a (Bool.and_eq_true_iff.1 hcb).1 hba
            rw [filter_isLevel_eq_nil htrans hsorted hcle hca]
            exact List.nil_sublist _
          | true =>
            rw [List.filter_cons_of_pos hca] at hc ⊢
            exact hc.of_cons_of_ne hab

/-- Two lists in ascending order that agree on each place are one. -/
theorem eq_of_filter_isLevel_eq (htrans : ∀ a b c, le a b → le b c → le a c)
    (htotal : ∀ a b, le a b || le b a) (hsorted : sorted.Pairwise fun a b => le a b)
    (hother : other.Pairwise fun a b => le a b)
    (h : ∀ a, sorted.filter (isLevel le a) = other.filter (isLevel le a)) : sorted = other := by
  apply List.Sublist.antisymm
  · exact sublist_of_filter_isLevel htrans htotal hsorted hother fun a => h a ▸ List.Sublist.refl _
  · exact sublist_of_filter_isLevel htrans htotal hother hsorted fun a => h a ▸ List.Sublist.refl _

/-- Sorting leaves no choice. -/
theorem StableSort.eq (h : StableSort le items sorted) (hother : StableSort le items other)
    (htrans : ∀ a b c, le a b → le b c → le a c) (htotal : ∀ a b, le a b || le b a) :
    sorted = other := by
  apply eq_of_filter_isLevel_eq htrans htotal h.ascending hother.ascending
  intro a
  rw [h.filter_isLevel htrans, hother.filter_isLevel htrans]

/-- What is left of the items keeps its order, whatever is taken away before sorting. -/
theorem StableSort.sublist (h : StableSort le items sorted) (hother : StableSort le part other)
    (hpart : part.Sublist items) (htrans : ∀ a b c, le a b → le b c → le a c)
    (htotal : ∀ a b, le a b || le b a) : other.Sublist sorted := by
  apply sublist_of_filter_isLevel htrans htotal hother.ascending h.ascending
  intro a
  rw [h.filter_isLevel htrans, hother.filter_isLevel htrans]
  exact hpart.filter _

/-- Leaving items out before sorting is leaving them out afterwards. -/
theorem StableSort.filter (h : StableSort le items sorted) (keep : α → Bool) :
    StableSort le (items.filter keep) (sorted.filter keep) where
  perm := h.perm.filter keep
  ascending := h.ascending.filter keep
  stable part hpart hsub := by
    have hkept : part.filter keep = part := by
      refine List.filter_eq_self.2 ?_
      intro item hitem
      exact (List.mem_filter.1 (hsub.subset hitem)).2
    rw [← hkept]
    exact (h.stable part hpart (hsub.trans List.filter_sublist)).filter keep

theorem stableSort_mergeSort (htrans : ∀ a b c, le a b → le b c → le a c)
    (htotal : ∀ a b, le a b || le b a) (items : List α) :
    StableSort le items (items.mergeSort le) where
  perm := List.mergeSort_perm items le
  ascending := List.pairwise_mergeSort htrans htotal items
  stable _ hpart hsub := List.sublist_mergeSort htrans htotal hpart hsub

/-- It is enough that the items of each place keep their order. -/
theorem stableSort_iff (htrans : ∀ a b c, le a b → le b c → le a c)
    (htotal : ∀ a b, le a b || le b a) :
    StableSort le items sorted ↔ sorted.Perm items ∧ (sorted.Pairwise fun a b => le a b) ∧
      ∀ a, sorted.filter (isLevel le a) = items.filter (isLevel le a) := by
  constructor
  · intro h
    exact ⟨h.perm, h.ascending, h.filter_isLevel htrans⟩
  · rintro ⟨-, hsorted, hlevel⟩
    have hmerged := stableSort_mergeSort htrans htotal items
    have heq : sorted = items.mergeSort le := by
      apply eq_of_filter_isLevel_eq htrans htotal hsorted hmerged.ascending
      intro a
      rw [hlevel, hmerged.filter_isLevel htrans]
    rwa [heq]

end StableSort

/-! ## Sorting by proximity -/

namespace ProximityCriteria

variable {α : Type} {criteria : ProximityCriteria} {catalogue : Catalogue}
  {elementOf : α → StorageElement} {items sorted : List α}

/-- Whether the element of one item ranks before that of another one or as high. -/
def notAfter (criteria : ProximityCriteria) (catalogue : Catalogue)
    (elementOf : α → StorageElement) (a b : α) : Bool :=
  (criteria.rank catalogue (elementOf a)).le (criteria.rank catalogue (elementOf b))

theorem notAfter_total (criteria : ProximityCriteria) (catalogue : Catalogue)
    (elementOf : α → StorageElement) (a b : α) :
    criteria.notAfter catalogue elementOf a b || criteria.notAfter catalogue elementOf b a :=
  Rank.le_total _ _

theorem notAfter_trans (criteria : ProximityCriteria) (catalogue : Catalogue)
    (elementOf : α → StorageElement) (a b c : α) :
    criteria.notAfter catalogue elementOf a b → criteria.notAfter catalogue elementOf b c →
      criteria.notAfter catalogue elementOf a c :=
  Rank.le_trans _ _ _

/-- The items whose elements are not ruled out, in ascending order of the ranks of the elements. -/
def NearestFirst (criteria : ProximityCriteria) (catalogue : Catalogue)
    (elementOf : α → StorageElement) (items sorted : List α) : Prop :=
  StableSort (criteria.notAfter catalogue elementOf)
    (items.filter fun item => !criteria.excludes (elementOf item)) sorted

theorem nearestFirst_sort (criteria : ProximityCriteria) (catalogue : Catalogue)
    (elementOf : α → StorageElement) (items : List α) :
    criteria.NearestFirst catalogue elementOf items (criteria.sort catalogue elementOf items) :=
  stableSort_mergeSort (criteria.notAfter_trans catalogue elementOf)
    (criteria.notAfter_total catalogue elementOf) _

/-- Items that stand nearest first are what sorting gives. -/
theorem NearestFirst.sort_eq (h : criteria.NearestFirst catalogue elementOf items sorted) :
    criteria.sort catalogue elementOf items = sorted :=
  (criteria.nearestFirst_sort catalogue elementOf items).eq h
    (criteria.notAfter_trans catalogue elementOf) (criteria.notAfter_total catalogue elementOf)

/-- Exactly the items whose elements are not ruled out are there. -/
theorem NearestFirst.mem_iff (h : criteria.NearestFirst catalogue elementOf items sorted)
    {item : α} : item ∈ sorted ↔ item ∈ items ∧ criteria.excludes (elementOf item) = false := by
  rw [StableSort.mem_iff h, List.mem_filter, Bool.not_eq_true']

/-- Leaving items out does not change the order of the others. -/
theorem NearestFirst.filter (h : criteria.NearestFirst catalogue elementOf items sorted)
    (keep : α → Bool) :
    criteria.NearestFirst catalogue elementOf (items.filter keep) (sorted.filter keep) := by
  have hsorted := StableSort.filter h keep
  rwa [List.filter_comm] at hsorted

end ProximityCriteria

/-! ## Replicas of an inventory -/

namespace Inventory

variable {inventory : Inventory} {criteria : ProximityCriteria} {replicas : List Replica}
  {nearest : List LocatedReplica}

/-- A replica with its storage element, if the inventory knows the element. -/
def locate? (inventory : Inventory) (replica : Replica) : Option LocatedReplica :=
  (inventory.element? replica.element).map fun element => ⟨replica, element⟩

/-- The replicas on elements that the inventory knows. -/
def located (inventory : Inventory) (replicas : List Replica) : List LocatedReplica :=
  replicas.filterMap inventory.locate?

theorem mem_located {located : LocatedReplica} :
    located ∈ inventory.located replicas ↔
      located.replica ∈ replicas ∧
        inventory.element? located.replica.element = some located.element := by
  rw [Inventory.located, List.mem_filterMap]
  constructor
  · rintro ⟨replica, hreplica, hlocated⟩
    obtain ⟨element, helement, rfl⟩ := Option.map_eq_some_iff.1 hlocated
    exact ⟨hreplica, helement⟩
  · rintro ⟨hreplica, helement⟩
    exact ⟨located.replica, hreplica, Option.map_eq_some_iff.2 ⟨_, helement, rfl⟩⟩

theorem located_filter (inventory : Inventory) (replicas : List Replica)
    (keep : Replica → Bool) :
    inventory.located (replicas.filter keep) =
      (inventory.located replicas).filter fun located => keep located.replica := by
  rw [located, located, List.filterMap_filter, List.filter_filterMap]
  congr 1
  funext replica
  rw [locate?]
  cases inventory.element? replica.element with
  | none => simp
  | some element => simp [Option.filter]

/-- An inventory does not fail to locate replicas. -/
theorem locateAll_catalogue (inventory : Inventory) (replicas : List Replica) :
    inventory.catalogue.locateAll replicas = .ok (inventory.located replicas) := by
  have hlocate : inventory.catalogue.locate = fun replica => pure (inventory.locate? replica) := by
    funext replica
    rfl
  rw [Catalogue.locateAll, hlocate, List.mapM_pure]
  simp [located, List.filterMap_map, pure, Except.pure, bind, Except.bind]

/-- The replicas of an inventory on known elements, nearest first. -/
def IsNearest (inventory : Inventory) (criteria : ProximityCriteria) (replicas : List Replica)
    (nearest : List LocatedReplica) : Prop :=
  criteria.NearestFirst inventory.catalogue LocatedReplica.element (inventory.located replicas)
    nearest

theorem exists_isNearest (inventory : Inventory) (criteria : ProximityCriteria)
    (replicas : List Replica) : ∃ nearest, inventory.IsNearest criteria replicas nearest :=
  ⟨_, criteria.nearestFirst_sort _ _ _⟩

theorem nearestReplicas_catalogue (h : inventory.IsNearest criteria replicas nearest) :
    inventory.catalogue.nearestReplicas criteria replicas = .ok nearest := by
  rw [Catalogue.nearestReplicas, locateAll_catalogue]
  exact congrArg Except.ok h.sort_eq

/-- Exactly the replicas on known elements that are not ruled out are there. -/
theorem IsNearest.mem_iff (h : inventory.IsNearest criteria replicas nearest)
    {located : LocatedReplica} :
    located ∈ nearest ↔ located.replica ∈ replicas ∧
      inventory.element? located.replica.element = some located.element ∧
      criteria.excludes located.element = false := by
  rw [ProximityCriteria.NearestFirst.mem_iff h, mem_located, and_assoc]

/-- Leaving replicas out does not change the order of the others. -/
theorem IsNearest.filter (h : inventory.IsNearest criteria replicas nearest)
    (keep : Replica → Bool) :
    inventory.IsNearest criteria (replicas.filter keep)
      (nearest.filter fun located => keep located.replica) := by
  rw [IsNearest, located_filter]
  exact ProximityCriteria.NearestFirst.filter h _

end Inventory

end GridAccess
