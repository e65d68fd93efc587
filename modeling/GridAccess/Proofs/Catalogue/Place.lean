import GridAccess.Catalogue.Proximity
import GridAccess.Proofs.Storage.Naming
import Mathlib.Order.WithBot

/-!
# Places by proximity

For a client, each storage element has a place: at the client's site or elsewhere, then the position
of its name among those that are preferred, then how far it is. Places are compared in this order.
They are said here by names, by what the catalogue answers about the distance, and by the bits of the
numbers.

## Main definitions

- `Binary64.IsSum`, `Binary64.TotalLe` — sums and the total order of patterns
- `ProximityCriteria.Admits` — a storage element is not ruled out
- `ProximityCriteria.IsDistance` — how far a storage element is
- `ProximityCriteria.HasPlace` — the place of a storage element
- `Place.NotBehind` — the order of places

## Main statements

- `ProximityCriteria.hasPlace_iff` — each storage element has one place
- `ProximityCriteria.notAfter_iff` — what ranks before something else or as high is not behind it
-/

namespace GridAccess

/-! ## Sums and the total order -/

namespace Binary64

variable {a b sum : Binary64}

/-- The sum of two patterns: the first of them that is no number, with the first bit of its fraction
set; a pattern of its own for opposite infinities; and otherwise the sum of the numbers. -/
inductive IsSum : Binary64 → Binary64 → Binary64 → Prop
  | first {a b : Binary64} (ha : infinity < a.magnitude) :
      IsSum a b ⟨a.toBits ||| 0x0008000000000000⟩
  | second {a b : Binary64} (ha : a.magnitude ≤ infinity) (hb : infinity < b.magnitude) :
      IsSum a b ⟨b.toBits ||| 0x0008000000000000⟩
  | opposite {a b : Binary64} (ha : a.magnitude = infinity) (hb : b.magnitude = infinity)
      (hne : a ≠ b) : IsSum a b ⟨0xFFF8000000000000⟩
  | numbers {a b : Binary64} (ha : a.magnitude ≤ infinity) (hb : b.magnitude ≤ infinity)
      (heq : a.magnitude = infinity → b.magnitude = infinity → a = b) :
      IsSum a b ⟨(Float.ofBits a.toBits + Float.ofBits b.toBits).toBits⟩

/-- There is one sum. -/
theorem isSum_iff : IsSum a b sum ↔ sum = a + b := by
  show IsSum a b sum ↔ sum = add a b
  unfold add
  constructor
  · rintro (ha | ⟨ha, hb⟩ | ⟨ha, hb, hne⟩ | ⟨ha, hb, heq⟩)
    · simp [isNumber, ha, quiet]
    · simp [isNumber, ha, hb, quiet]
    · simp [isNumber, isInfinite, ha, hb, hne, undefined]
    · simp only [isNumber, ha, hb, decide_true, Bool.not_true, Bool.false_eq_true, if_false]
      have hsame : ¬(a.isInfinite && b.isInfinite && decide (a ≠ b)) = true := by
        simpa [isInfinite] using heq
      rw [if_neg hsame]
      rfl
  · rintro rfl
    split
    · next ha => exact .first (by simpa [isNumber] using ha)
    next ha =>
    have ha : a.magnitude ≤ infinity := by simpa [isNumber] using ha
    split
    · next hb => exact .second ha (by simpa [isNumber] using hb)
    next hb =>
    have hb : b.magnitude ≤ infinity := by simpa [isNumber] using hb
    split
    · next hopposite =>
      simp only [isInfinite, ne_eq, Bool.and_eq_true, decide_eq_true_eq] at hopposite
      exact .opposite hopposite.1.1 hopposite.1.2 hopposite.2
    · next hsame =>
      exact .numbers ha hb (by simpa [isInfinite] using hsame)

/-- Whether the bit of the sign is set. -/
def HasSign (value : Binary64) : Prop :=
  0x8000000000000000 ≤ value.toBits.toNat

/-- The total order of patterns: those with a sign stand before the others, the larger before the
smaller. -/
inductive TotalLe (a b : Binary64) : Prop
  | signs (ha : a.HasSign) (hb : ¬b.HasSign)
  | below (ha : a.HasSign) (hb : b.HasSign) (h : b.magnitude ≤ a.magnitude)
  | above (ha : ¬a.HasSign) (hb : ¬b.HasSign) (h : a.magnitude ≤ b.magnitude)

theorem position_of_hasSign (h : a.HasSign) : a.position + a.magnitude + 1 = signBit := by
  have hsize : UInt64.size = signBit + signBit := rfl
  have hless : a.toBits.toNat < UInt64.size := a.toBits.toNat_lt_size
  have hsign : signBit ≤ a.toBits.toNat := h
  have hmod : a.toBits.toNat % signBit = a.toBits.toNat - signBit := by
    rw [Nat.mod_eq_sub_mod hsign, Nat.mod_eq_of_lt (by omega)]
  rw [position, magnitude, if_neg (Nat.not_lt.2 hsign), hmod]
  omega

theorem position_of_not_hasSign (h : ¬a.HasSign) : a.position = a.magnitude + signBit := by
  have hless : a.toBits.toNat < signBit := Nat.not_le.1 h
  rw [position, magnitude, if_pos hless, Nat.mod_eq_of_lt hless]

theorem totalLe_iff : a.TotalLe b ↔ a.position ≤ b.position := by
  by_cases ha : a.HasSign <;> by_cases hb : b.HasSign
  · have hapos := position_of_hasSign ha
    have hbpos := position_of_hasSign hb
    refine Iff.trans ⟨?_, fun h => .below ha hb h⟩ (by omega : b.magnitude ≤ a.magnitude ↔ _)
    rintro (⟨-, hno⟩ | ⟨-, -, h⟩ | ⟨hno, -, -⟩)
    · exact absurd hb hno
    · exact h
    · exact absurd ha hno
  · have hapos := position_of_hasSign ha
    have hbpos := position_of_not_hasSign hb
    exact iff_of_true (.signs ha hb) (by omega)
  · have hapos := position_of_not_hasSign ha
    have hbpos := position_of_hasSign hb
    refine iff_of_false ?_ (by omega)
    rintro (⟨hyes, -⟩ | ⟨hyes, -, -⟩ | ⟨-, hno, -⟩)
    · exact ha hyes
    · exact ha hyes
    · exact hno hb
  · have hapos := position_of_not_hasSign ha
    have hbpos := position_of_not_hasSign hb
    refine Iff.trans ⟨?_, fun h => .above ha hb h⟩ (by omega : a.magnitude ≤ b.magnitude ↔ _)
    rintro (⟨hyes, -⟩ | ⟨hyes, -, -⟩ | ⟨-, -, h⟩)
    · exact absurd hyes ha
    · exact absurd hyes ha
    · exact h

/-- Different patterns have different positions. -/
theorem position_injective : Function.Injective position := by
  rintro ⟨a⟩ ⟨b⟩ h
  have hsize : UInt64.size = signBit + signBit := rfl
  have ha := a.toNat_lt_size
  have hb := b.toNat_lt_size
  simp only [position] at h
  congr
  apply UInt64.toNat_inj.1
  split at h <;> split at h <;> omega

end Binary64

/-! ## Places -/

/-- The place of a storage element: whether it is elsewhere, its position among those preferred, and
how far it is. What is not preferred has the last position. -/
structure Place where
  remote : Bool
  position : WithTop ℕ
  distance : Binary64

/-- A place is not behind another one: the first thing in which they differ, if any, is less. -/
def Place.NotBehind (a b : Place) : Prop :=
  a.remote < b.remote ∨ a.remote = b.remote ∧
    (a.position < b.position ∨ a.position = b.position ∧ a.distance.TotalLe b.distance)

namespace ProximityCriteria

variable {α : Type} {criteria : ProximityCriteria} {catalogue : Catalogue}
  {elementOf : α → StorageElement} {element : StorageElement} {distance : Binary64} {place : Place}

/-- An element goes by none of the names that are ruled out. -/
def Admits (criteria : ProximityCriteria) (element : StorageElement) : Prop :=
  ∀ name ∈ criteria.excluded, ¬element.GoesBy name

instance (criteria : ProximityCriteria) : DecidablePred criteria.Admits :=
  fun element => inferInstanceAs (Decidable (∀ name ∈ criteria.excluded, ¬element.GoesBy name))

theorem admits_iff : criteria.Admits element ↔ criteria.excludes element = false := by
  simp only [Admits, excludes, List.any_eq_false, StorageElement.goesBy_iff]

/-- How far an element is: no way without a site, as far as the catalogue answers, and as far as a
number can be if it does not know. -/
inductive IsDistance (criteria : ProximityCriteria) (catalogue : Catalogue)
    (element : StorageElement) : Binary64 → Prop
  | nowhere (hsite : criteria.site = none) :
      IsDistance criteria catalogue element ⟨0⟩
  | known {site : String} {distance : Binary64} (hsite : criteria.site = some site)
      (hdistance : catalogue.distance site element = some distance) :
      IsDistance criteria catalogue element distance
  | unknown {site : String} (hsite : criteria.site = some site)
      (hdistance : catalogue.distance site element = none) :
      IsDistance criteria catalogue element ⟨0x7FEFFFFFFFFFFFFF⟩

theorem isDistance_iff : criteria.IsDistance catalogue element distance ↔
    distance = criteria.distance catalogue element := by
  rw [ProximityCriteria.distance]
  constructor
  · rintro (hsite | ⟨hsite, hdistance⟩ | ⟨hsite, hdistance⟩)
    · simp only [hsite]
      rfl
    · simp only [hsite, hdistance, Option.getD_some]
    · simp only [hsite, hdistance, Option.getD_none]
      rfl
  · rintro rfl
    cases hsite : criteria.site with
    | none => exact .nowhere hsite
    | some site =>
      cases hdistance : catalogue.distance site element with
      | none =>
        simp only [hdistance, Option.getD_none]
        exact .unknown hsite hdistance
      | some distance =>
        simp only [hdistance, Option.getD_some]
        exact .known hsite hdistance

/-- The place of an element. It is elsewhere if the client has a site and the element is not there.
Its position is that of the first preferred name that it goes by. The penalty for reading from it
counts as distance. -/
structure HasPlace (criteria : ProximityCriteria) (catalogue : Catalogue)
    (element : StorageElement) (place : Place) : Prop where
  remote : place.remote = true ↔ ∃ site, criteria.site = some site ∧ ¬element.IsAtSite site
  position : ∀ index, place.position = WithTop.some index ↔ ∃ before name after,
    criteria.preferred = before ++ name :: after ∧ before.length = index ∧ element.GoesBy name ∧
      ∀ earlier ∈ before, ¬element.GoesBy earlier
  distance : ∃ way, criteria.IsDistance catalogue element way ∧
    Binary64.IsSum way element.readPenalty place.distance

/-- The position of the first preferred name that an element goes by. -/
def position (criteria : ProximityCriteria) (element : StorageElement) : WithTop ℕ :=
  match criteria.preferred.findIdx? element.isNamed with
  | some index => WithTop.some index
  | none => ⊤

/-- The place that ranks are compared by. -/
def placeOf (criteria : ProximityCriteria) (catalogue : Catalogue) (element : StorageElement) :
    Place where
  remote := criteria.isRemote element
  position := criteria.position element
  distance := criteria.distance catalogue element + element.readPenalty

theorem isRemote_eq_true_iff : criteria.isRemote element = true ↔
    ∃ site, criteria.site = some site ∧ ¬element.IsAtSite site := by
  simp only [isRemote, StorageElement.isAtSite_iff]
  cases criteria.site <;> simp

theorem position_eq_some_iff {index : ℕ} : criteria.position element = WithTop.some index ↔
    ∃ before name after, criteria.preferred = before ++ name :: after ∧ before.length = index ∧
      element.GoesBy name ∧ ∀ earlier ∈ before, ¬element.GoesBy earlier := by
  have hfind : criteria.position element = WithTop.some index ↔
      criteria.preferred.findIdx? element.isNamed = some index := by
    rw [position]
    cases criteria.preferred.findIdx? element.isNamed with
    | none => simp
    | some found => simp
  simp only [hfind, StorageElement.goesBy_iff, List.findIdx?_eq_some_iff_getElem]
  constructor
  · rintro ⟨hindex, hnamed, hbefore⟩
    refine ⟨criteria.preferred.take index, criteria.preferred[index],
      criteria.preferred.drop (index + 1), ?_, List.length_take_of_le hindex.le, hnamed, ?_⟩
    · rw [List.getElem_cons_drop, List.take_append_drop]
    · intro earlier hearlier
      obtain ⟨number, hnumber, rfl⟩ := List.mem_take_iff_getElem.1 hearlier
      exact hbefore number (by omega)
  · rintro ⟨before, name, after, hpreferred, rfl, hnamed, hbefore⟩
    simp only [hpreferred]
    refine ⟨by simp, by simpa using hnamed, ?_⟩
    intro number hnumber
    rw [List.getElem_append_left hnumber]
    exact hbefore _ (List.getElem_mem hnumber)

/-- Each element has one place. -/
theorem hasPlace_iff : criteria.HasPlace catalogue element place ↔
    place = criteria.placeOf catalogue element := by
  constructor
  · rintro ⟨hremote, hposition, way, hway, hsum⟩
    rw [isDistance_iff] at hway
    rw [hway, Binary64.isSum_iff] at hsum
    obtain ⟨remote, position, distance⟩ := place
    rw [placeOf, Place.mk.injEq]
    refine ⟨?_, ?_, hsum⟩
    · rw [Bool.eq_iff_iff, isRemote_eq_true_iff]
      exact hremote
    · cases position with
      | coe index => exact (position_eq_some_iff.2 ((hposition index).1 rfl)).symm
      | top =>
        cases hlast : criteria.position element with
        | top => rfl
        | coe index =>
          exact absurd ((hposition index).2 (position_eq_some_iff.1 hlast)) (by simp)
  · rintro rfl
    exact ⟨isRemote_eq_true_iff, fun _ => position_eq_some_iff, _, isDistance_iff.2 rfl,
      Binary64.isSum_iff.2 rfl⟩

theorem position_cases (criteria : ProximityCriteria) (element : StorageElement) :
    (criteria.position element = WithTop.some (criteria.preference element) ∧
      criteria.preference element < criteria.preferred.length) ∨
    (criteria.position element = ⊤ ∧
      criteria.preference element = criteria.preferred.length) := by
  rw [position, preference]
  split
  next index h =>
    obtain ⟨hlt, heq⟩ := List.findIdx?_eq_some_iff_findIdx_eq.1 h
    rw [heq]
    exact Or.inl ⟨rfl, hlt⟩
  next h =>
    exact Or.inr ⟨rfl, List.findIdx_eq_length_of_false (List.findIdx?_eq_none_iff.1 h)⟩

/-- The number that stands for a position in ranks is compared as the position is. -/
theorem preference_le_iff (criteria : ProximityCriteria) (a b : StorageElement) :
    criteria.preference a ≤ criteria.preference b ↔ criteria.position a ≤ criteria.position b := by
  rcases criteria.position_cases a with ⟨ha, halt⟩ | ⟨ha, hlast⟩ <;>
    rcases criteria.position_cases b with ⟨hb, hblt⟩ | ⟨hb, hblast⟩ <;> rw [ha, hb]
  · rw [WithTop.coe_le_coe]
  -- What is not preferred is behind everything that is, as its number is the length of the list.
  · exact iff_of_true (hblast ▸ halt.le) le_top
  · refine iff_of_false (by omega) ?_
    simp
  · exact iff_of_true (by rw [hlast, hblast]) le_rfl

end ProximityCriteria

end GridAccess
