import GridAccess.Proofs.Catalogue.Nearest
import GridAccess.Proofs.Catalogue.Place
import GridAccess.Proofs.Result
import Mathlib.Data.List.Sort

/-!
# Sorting by proximity

Sorting by proximity drops what is ruled out and sorts the rest by place: first what is not known to
be elsewhere, then what is preferred, in the order of the preference, then what is near. Items of one
place keep their order. This says everything about the sorted list, for replicas as for storage
elements, and whatever the catalogue answers about distances.

## Main definitions

- `ProximityCriteria.IsRanked` — items sorted by proximity
- `Catalogue.located` — replicas with the storage elements that a catalogue answers

## Main statements

- `ProximityCriteria.notAfter_iff` — ranks are compared as places are
- `ProximityCriteria.sort_eq_iff` — sorting gives the one list that is sorted by proximity
- `ProximityCriteria.sort_sublist`, `ProximityCriteria.sort_excluding` — what is taken away or ruled
  out does not change the order of the rest
- `nearest_isRanked` — what a catalogue answers as nearest
-/

namespace GridAccess

/-! ## The order of places -/

/-- Ranks are compared by what they say first, then by the next. -/
theorem Rank.le_iff {a b : Rank} : a.le b = true ↔ a.remote < b.remote ∨ a.remote = b.remote ∧
    (a.preference < b.preference ∨ a.preference = b.preference ∧
      a.distance.position ≤ b.distance.position) := by
  obtain ⟨aRemote, aPreference, aDistance⟩ := a
  obtain ⟨bRemote, bPreference, bDistance⟩ := b
  unfold le
  by_cases hpreference : aPreference = bPreference <;> cases aRemote <;> cases bRemote <;>
    simp [hpreference]

namespace Place

variable {a b : Place}

theorem notBehind_refl (a : Place) : a.NotBehind a :=
  Or.inr ⟨rfl, Or.inr ⟨rfl, Binary64.totalLe_iff.2 le_rfl⟩⟩

/-- Places neither of which is behind the other are one. -/
theorem NotBehind.antisymm (hab : a.NotBehind b) (hba : b.NotBehind a) : a = b := by
  obtain ⟨aRemote, aPosition, aDistance⟩ := a
  obtain ⟨bRemote, bPosition, bDistance⟩ := b
  simp only [NotBehind, Binary64.totalLe_iff] at hab hba
  rcases hab with hremote | ⟨rfl, hab⟩
  · rcases hba with hback | ⟨hback, -⟩
    · exact absurd hback hremote.asymm
    · exact absurd hback hremote.ne'
  rcases hba with hback | ⟨-, hba⟩
  · exact absurd hback (lt_irrefl _)
  rcases hab with hposition | ⟨rfl, hab⟩
  · rcases hba with hback | ⟨hback, -⟩
    · exact absurd hback hposition.asymm
    · exact absurd hback hposition.ne'
  rcases hba with hback | ⟨-, hba⟩
  · exact absurd hback (lt_irrefl _)
  rw [Binary64.position_injective (le_antisymm hab hba)]

end Place

namespace ProximityCriteria

variable {α : Type} {criteria : ProximityCriteria} {catalogue : Catalogue}
  {elementOf : α → StorageElement} {items part ranked : List α}

/-- An element ranks before another one or as high exactly if its place is not behind. -/
theorem notAfter_iff {a b : α} : criteria.notAfter catalogue elementOf a b ↔
    (criteria.placeOf catalogue (elementOf a)).NotBehind
      (criteria.placeOf catalogue (elementOf b)) := by
  have hle := criteria.preference_le_iff (elementOf a) (elementOf b)
  have hge := criteria.preference_le_iff (elementOf b) (elementOf a)
  have hlt : criteria.preference (elementOf a) < criteria.preference (elementOf b) ↔
      criteria.position (elementOf a) < criteria.position (elementOf b) := by
    rw [← not_le, ← not_le, hge]
  have heq : criteria.preference (elementOf a) = criteria.preference (elementOf b) ↔
      criteria.position (elementOf a) = criteria.position (elementOf b) := by
    rw [le_antisymm_iff, le_antisymm_iff, hle, hge]
  rw [Place.NotBehind, Binary64.totalLe_iff]
  simp only [placeOf, ← hlt, ← heq]
  exact Rank.le_iff

/-- Items are of one place in the order exactly if their elements have one place. -/
theorem isLevel_notAfter_iff {a b : α} :
    isLevel (criteria.notAfter catalogue elementOf) a b = true ↔
      criteria.placeOf catalogue (elementOf b) = criteria.placeOf catalogue (elementOf a) := by
  rw [isLevel, Bool.and_eq_true_iff, notAfter_iff, notAfter_iff]
  constructor
  · rintro ⟨hab, hba⟩
    exact hba.antisymm hab
  · intro heq
    rw [heq]
    exact ⟨Place.notBehind_refl _, Place.notBehind_refl _⟩

/-! ## Sorted items -/

/-- The items whose elements are not ruled out. -/
def admitted (criteria : ProximityCriteria) (elementOf : α → StorageElement) (items : List α) :
    List α :=
  items.filter fun item => criteria.Admits (elementOf item)

/-- Items sorted by proximity: those on elements that are not ruled out, in ascending order of the
places of the elements, where items of one place keep the order they had. -/
structure IsRanked (criteria : ProximityCriteria) (catalogue : Catalogue)
    (elementOf : α → StorageElement) (items ranked : List α) : Prop where
  perm : ranked.Perm (criteria.admitted elementOf items)
  ascending : ranked.Pairwise fun a b => ∃ place other,
    criteria.HasPlace catalogue (elementOf a) place ∧
      criteria.HasPlace catalogue (elementOf b) other ∧ place.NotBehind other
  stable : ∀ (place : Place) (part : List α), part.Sublist items →
    (∀ item ∈ part, criteria.Admits (elementOf item) ∧
      criteria.HasPlace catalogue (elementOf item) place) → part.Sublist ranked

theorem admitted_eq (criteria : ProximityCriteria) (elementOf : α → StorageElement)
    (items : List α) :
    criteria.admitted elementOf items =
      items.filter fun item => !criteria.excludes (elementOf item) := by
  refine List.filter_congr ?_
  intro item _
  simp [admits_iff]

/-- To stand nearest first is to be sorted in this way. -/
theorem nearestFirst_iff_isRanked : criteria.NearestFirst catalogue elementOf items ranked ↔
    criteria.IsRanked catalogue elementOf items ranked := by
  have hascending : ∀ a b, (∃ place other, criteria.HasPlace catalogue (elementOf a) place ∧
      criteria.HasPlace catalogue (elementOf b) other ∧ place.NotBehind other) ↔
      criteria.notAfter catalogue elementOf a b := by
    intro a b
    simp only [hasPlace_iff, exists_and_left, exists_eq_left, notAfter_iff]
  rw [NearestFirst, ← admitted_eq]
  constructor
  · intro h
    refine ⟨h.perm, h.ascending.imp (hascending _ _).2, ?_⟩
    intro place part hpart hplace
    apply h.stable
    · refine List.pairwise_of_forall_mem_list ?_
      intro a ha b hb
      rw [notAfter_iff, ← hasPlace_iff.1 (hplace a ha).2, ← hasPlace_iff.1 (hplace b hb).2]
      exact Place.notBehind_refl place
    · rw [← List.filter_eq_self.2 fun item hitem => decide_eq_true (hplace item hitem).1]
      exact hpart.filter _
  · intro h
    refine (stableSort_iff (criteria.notAfter_trans catalogue elementOf)
      (criteria.notAfter_total catalogue elementOf)).2
      ⟨h.perm, h.ascending.imp (hascending _ _).1, ?_⟩
    intro a
    let level := (criteria.admitted elementOf items).filter
      (isLevel (criteria.notAfter catalogue elementOf) a)
    have hlevel : level.Sublist ranked := by
      apply h.stable (criteria.placeOf catalogue (elementOf a))
      · exact List.filter_sublist.trans List.filter_sublist
      · intro item hitem
        obtain ⟨hadmitted, hsame⟩ := List.mem_filter.1 hitem
        exact ⟨of_decide_eq_true (List.mem_filter.1 hadmitted).2,
          hasPlace_iff.2 (isLevel_notAfter_iff.1 hsame).symm⟩
    -- All items of the place are there, and there are no more of them.
    have hsub := hlevel.filter (isLevel (criteria.notAfter catalogue elementOf) a)
    simp only [level, List.filter_filter, Bool.and_self] at hsub
    exact (hsub.eq_of_length (h.perm.filter _).length_eq.symm).symm

/-- Sorting gives the one list that is sorted in this way. -/
theorem sort_eq_iff : criteria.sort catalogue elementOf items = ranked ↔
    criteria.IsRanked catalogue elementOf items ranked := by
  rw [← nearestFirst_iff_isRanked]
  constructor
  · rintro rfl
    exact criteria.nearestFirst_sort catalogue elementOf items
  · exact NearestFirst.sort_eq

/-- Sorting by insertion gives this list too, one item after the other. -/
theorem isRanked_iff_insertionSort : criteria.IsRanked catalogue elementOf items ranked ↔
    (criteria.admitted elementOf items).insertionSort
      (fun a b => criteria.notAfter catalogue elementOf a b = true) = ranked := by
  let before (a b : α) : Prop := criteria.notAfter catalogue elementOf a b = true
  have htrans : IsTrans α before := ⟨criteria.notAfter_trans catalogue elementOf⟩
  have htotal : Std.Total before :=
    ⟨fun a b => Bool.or_eq_true_iff.1 (criteria.notAfter_total catalogue elementOf a b)⟩
  have hinserted : criteria.NearestFirst catalogue elementOf items
      ((criteria.admitted elementOf items).insertionSort before) := by
    rw [NearestFirst, ← admitted_eq]
    exact ⟨List.perm_insertionSort before _, List.pairwise_insertionSort before _,
      fun _ => List.sublist_insertionSort⟩
  rw [← sort_eq_iff, hinserted.sort_eq]

instance [DecidableEq α] (criteria : ProximityCriteria) (catalogue : Catalogue)
    (elementOf : α → StorageElement) (items ranked : List α) :
    Decidable (criteria.IsRanked catalogue elementOf items ranked) :=
  decidable_of_iff _ isRanked_iff_insertionSort.symm

/-- Items that are taken away do not change the order of the others. -/
theorem sort_sublist (criteria : ProximityCriteria) (catalogue : Catalogue)
    (elementOf : α → StorageElement) (h : part.Sublist items) :
    (criteria.sort catalogue elementOf part).Sublist (criteria.sort catalogue elementOf items) :=
  (criteria.nearestFirst_sort catalogue elementOf items).sublist
    (criteria.nearestFirst_sort catalogue elementOf part) (h.filter _)
    (criteria.notAfter_trans catalogue elementOf) (criteria.notAfter_total catalogue elementOf)

/-- What is not ruled out among more names is not ruled out. -/
theorem Admits.of_subset {element : StorageElement} {excluded : List String}
    (h : criteria.excluded ⊆ excluded) (hadmits : { criteria with excluded }.Admits element) :
    criteria.Admits element :=
  fun name hname => hadmits name (h hname)

/-- To rule out more elements is to leave their items out of the sorted ones. -/
theorem sort_excluding (criteria : ProximityCriteria) (catalogue : Catalogue)
    (elementOf : α → StorageElement) (items : List α) {excluded : List String}
    (h : criteria.excluded ⊆ excluded) :
    { criteria with excluded }.sort catalogue elementOf items =
      { criteria with excluded }.admitted elementOf
        (criteria.sort catalogue elementOf items) := by
  have hsorted := criteria.nearestFirst_sort catalogue elementOf items
  rw [NearestFirst, ← admitted_eq] at hsorted
  -- What is ruled out before sorting is ruled out afterwards as well.
  have hadmitted : { criteria with excluded }.admitted elementOf (criteria.admitted elementOf items) =
      { criteria with excluded }.admitted elementOf items := by
    rw [admitted, admitted, admitted, List.filter_filter]
    refine List.filter_congr ?_
    intro item _
    rw [← Bool.decide_and, decide_eq_decide, and_iff_left_iff_imp]
    exact Admits.of_subset h
  apply NearestFirst.sort_eq
  rw [NearestFirst, ← admitted_eq, ← hadmitted]
  exact hsorted.filter _

end ProximityCriteria

/-! ## Catalogues -/

namespace Catalogue

variable {catalogue : Catalogue} {replicas : List Replica}

/-- A replica with its storage element, if the catalogue answers that there is one. -/
def locate? (catalogue : Catalogue) (replica : Replica) : Option LocatedReplica :=
  match catalogue.element replica.element with
  | .ok found => found.map fun element => ⟨replica, element⟩
  | .error _ => none

/-- The replicas on elements that the catalogue answers. -/
def located (catalogue : Catalogue) (replicas : List Replica) : List LocatedReplica :=
  replicas.filterMap catalogue.locate?

theorem locate_eq_ok_iff {replica : Replica} {found : Option LocatedReplica} :
    catalogue.locate replica = .ok found ↔
      (∃ answer, catalogue.element replica.element = .ok answer) ∧
        found = catalogue.locate? replica := by
  rw [locate, locate?]
  cases catalogue.element replica.element with
  | error failure => simp
  | ok answer => simp [eq_comm]

/-- Replicas are looked up exactly if the catalogue answers for each of them. -/
theorem mapM_locate_eq_ok_iff {found : List (Option LocatedReplica)} :
    replicas.mapM catalogue.locate = .ok found ↔
      (∀ replica ∈ replicas, ∃ answer, catalogue.element replica.element = .ok answer) ∧
        found = replicas.map catalogue.locate? := by
  induction replicas generalizing found with
  | nil => simp [pure, Except.pure, eq_comm]
  | cons replica replicas ih =>
    simp only [List.mapM_cons, bind_eq_ok_iff, locate_eq_ok_iff, ih, List.forall_mem_cons,
      List.map_cons]
    constructor
    · rintro ⟨_, ⟨hanswer, rfl⟩, _, ⟨hanswers, rfl⟩, hfound⟩
      cases hfound
      exact ⟨⟨hanswer, hanswers⟩, rfl⟩
    · rintro ⟨⟨hanswer, hanswers⟩, rfl⟩
      exact ⟨_, ⟨hanswer, rfl⟩, _, ⟨hanswers, rfl⟩, rfl⟩

/-- Replicas are sorted exactly if the catalogue answers for each of them. -/
theorem nearestReplicas_eq_ok_iff {criteria : ProximityCriteria} {ranked : List LocatedReplica} :
    catalogue.nearestReplicas criteria replicas = .ok ranked ↔
      (∀ replica ∈ replicas, ∃ answer, catalogue.element replica.element = .ok answer) ∧
        criteria.sort catalogue LocatedReplica.element (catalogue.located replicas) = ranked := by
  have hlocated : (replicas.map catalogue.locate?).filterMap id = catalogue.located replicas := by
    rw [List.filterMap_map]
    rfl
  simp only [nearestReplicas, locateAll, bind_eq_ok_iff, mapM_locate_eq_ok_iff]
  constructor
  · rintro ⟨_, ⟨_, ⟨hanswers, rfl⟩, hfound⟩, hranked⟩
    cases hfound
    cases hranked
    exact ⟨hanswers, by rw [hlocated]⟩
  · rintro ⟨hanswers, rfl⟩
    exact ⟨_, ⟨_, ⟨hanswers, rfl⟩, rfl⟩, by rw [hlocated]; rfl⟩

end Catalogue

/-- What a catalogue answers as nearest is sorted by proximity: for replicas, those on known elements,
if it answers for each of them, and likewise for elements. Replicas or elements that are taken away,
and those that are ruled out as well, do not change the order of the others. -/
theorem nearest_isRanked (catalogue : Catalogue) (criteria : ProximityCriteria)
    (replicas : List Replica) (elements : List StorageElement) :
    (∀ ranked, catalogue.nearestReplicas criteria replicas = .ok ranked ↔
      (∀ replica ∈ replicas, ∃ answer, catalogue.element replica.element = .ok answer) ∧
        criteria.IsRanked catalogue LocatedReplica.element (catalogue.located replicas) ranked) ∧
    (∀ ranked, catalogue.nearestElements criteria elements = ranked ↔
      criteria.IsRanked catalogue id elements ranked) ∧
    (∀ ranked, catalogue.nearestReplicas criteria replicas = .ok ranked →
      (∀ part, part.Sublist replicas → ∃ others,
        catalogue.nearestReplicas criteria part = .ok others ∧ others.Sublist ranked) ∧
      ∀ excluded, criteria.excluded ⊆ excluded →
        catalogue.nearestReplicas { criteria with excluded } replicas =
          .ok ({ criteria with excluded }.admitted LocatedReplica.element ranked)) ∧
    (∀ part, part.Sublist elements →
      (catalogue.nearestElements criteria part).Sublist
        (catalogue.nearestElements criteria elements)) ∧
    ∀ excluded, criteria.excluded ⊆ excluded →
      catalogue.nearestElements { criteria with excluded } elements =
        { criteria with excluded }.admitted id (catalogue.nearestElements criteria elements) := by
  refine ⟨?_, ?_, ?_, ?_, ?_⟩
  · intro ranked
    rw [Catalogue.nearestReplicas_eq_ok_iff, ProximityCriteria.sort_eq_iff]
  · intro ranked
    exact ProximityCriteria.sort_eq_iff
  · intro ranked hranked
    obtain ⟨hanswers, rfl⟩ := Catalogue.nearestReplicas_eq_ok_iff.1 hranked
    constructor
    · intro part hpart
      refine ⟨_, Catalogue.nearestReplicas_eq_ok_iff.2 ⟨?_, rfl⟩, ?_⟩
      · intro replica hreplica
        exact hanswers replica (hpart.subset hreplica)
      · exact criteria.sort_sublist catalogue _ (hpart.filterMap _)
    · intro excluded hexcluded
      exact Catalogue.nearestReplicas_eq_ok_iff.2
        ⟨hanswers, criteria.sort_excluding catalogue _ _ hexcluded⟩
  · intro part hpart
    exact criteria.sort_sublist catalogue id hpart
  · intro excluded hexcluded
    exact criteria.sort_excluding catalogue id elements hexcluded

/-- Storage elements at several sites. It costs a quarter to read from the second one. -/
def sampleElements : List StorageElement :=
  [.basic 1 "ALICE::CERN::EOS" "root://eos.example:1094" "/data",
    { StorageElement.basic 2 "ALICE::GSI::SE" "root://gsi.example:1094" "/data" with
      readPenalty := ⟨0x3FD0000000000000⟩ },
    .basic 3 "ALICE::CNAF::TAPE" "root://cnaf.example:1094" "/data",
    .basic 4 "ALICE::FZK::SE" "root://fzk.example:1094" "/data",
    .basic 5 "ALICE::RAL::SE" "root://ral.example:1094" "/data",
    .basic 6 "ALICE::NIHAM::SE" "root://niham.example:1094" "/data",
    .basic 7 "ALICE::SARA::SE" "root://sara.example:1094" "/data",
    .basic 8 "ALICE::LUND::SE" "root://lund.example:1094" "/data"]

/-- A catalogue of these elements. It is an eighth to the second and a quarter to the last one. The
answer for the fifth is no number and has a sign, and how far the sixth is is unknown. -/
def sampleCatalogue : Catalogue :=
  { ({ Inventory.empty with elements := sampleElements }).catalogue with
    distance := fun _ element =>
      [(1, ⟨0⟩), (2, ⟨0x3FC0000000000000⟩), (3, ⟨0x3FF0000000000000⟩), (4, ⟨0⟩),
        (5, ⟨0xFFF8000000000000⟩), (7, ⟨0x3FF0000000000000⟩),
        (8, ⟨0x3FD0000000000000⟩)].lookup element.number }

/-- The element at the client's site comes first, then those that are preferred, in the order in
which they are named first, then what is no number, then the others by distance and penalty. Two
replicas on one element keep their order. The element that is ruled out by name is left out, and so
is the one that the catalogue does not know. -/
theorem nearest_isRanked_sample :
    let criteria : ProximityCriteria := ⟨some "cern",
      ["alice::sara::se", " alice::cnaf::tape ", "ALICE::SARA::SE"], ["alice::fzk::se "]⟩
    let replica (number : ElementNumber) (location : String) : Replica := ⟨⟨1⟩, number, location⟩
    let replicas := [replica 6 "a", replica 2 "b", replica 3 "c", replica 4 "d", replica 9 "e",
      replica 2 "a", replica 8 "f", replica 5 "g", replica 1 "h", replica 7 "i"]
    (sampleCatalogue.nearestReplicas criteria replicas).map (List.map LocatedReplica.replica) =
      .ok [replica 1 "h", replica 7 "i", replica 3 "c", replica 5 "g", replica 8 "f",
        replica 2 "b", replica 2 "a", replica 6 "a"] ∧
    (sampleCatalogue.nearestReplicas { criteria with
        excluded := ["alice::fzk::se ", "ALICE::CNAF::TAPE"] } replicas).map
        (List.map LocatedReplica.replica) =
      .ok [replica 1 "h", replica 7 "i", replica 5 "g", replica 8 "f", replica 2 "b",
        replica 2 "a", replica 6 "a"] ∧
    (sampleCatalogue.nearestElements criteria sampleElements).map StorageElement.number =
      [1, 7, 3, 5, 8, 2, 6] := by
  intro criteria replica replicas
  obtain ⟨hreplicas, helements, hothers, -, -⟩ :=
    nearest_isRanked sampleCatalogue criteria replicas sampleElements
  have hranked : sampleCatalogue.nearestReplicas criteria replicas =
      .ok ([replica 1 "h", replica 7 "i", replica 3 "c", replica 5 "g", replica 8 "f",
        replica 2 "b", replica 2 "a", replica 6 "a"].filterMap sampleCatalogue.locate?) :=
    (hreplicas _).2 ⟨fun _ _ => ⟨_, rfl⟩, by decide +kernel⟩
  have hexcluded : criteria.excluded ⊆ ["alice::fzk::se ", "ALICE::CNAF::TAPE"] := by decide
  refine ⟨?_, ?_, ?_⟩
  · rw [hranked]
    rfl
  · rw [(hothers _ hranked).2 _ hexcluded]
    decide +kernel
  · rw [(helements ([1, 7, 3, 5, 8, 2, 6].filterMap fun number =>
      sampleElements.find? fun element => element.number = number)).2 (by decide +kernel)]
    decide +kernel

end GridAccess
