import GridAccess.Proofs.Envelope.Canonical

/-!
# Places of keys

Among values in canonical order a key has one place: the value with that key, or the gap between the
keys below it and those above it. A search that finds this place can set a value without comparing
the key with every other one, and the result is the same. Halving is such a search. It relies on the
order of the values, which setting a value keeps.

## Main definitions

- `Envelope.Place` — where a key stands, or where it belongs
- `Envelope.IsPlace` — the place of a key among values
- `Envelope.IsSearch` — a search that finds places among values in canonical order
- `Envelope.placeOf` — the place that halving finds
- `Envelope.putAt` — the values with that of a key set at a place

## Main statements

- `Envelope.putAt_eq_putField` — a value set at the place of its key is put in order
- `Envelope.IsStretch.halve` — what halving keeps, down to the last value
- `Envelope.isSearch_placeOf` — halving is a search
-/

namespace GridAccess

namespace Envelope

/-- Where a key stands among values, or where it belongs. -/
inductive Place where
  | taken (index : Nat)
  | vacant (index : Nat)
  deriving DecidableEq, Repr

/-- The values with that of a key set at a place. -/
def putAt (key : EnvelopeKey) (value : String) (fields : List (EnvelopeKey × String)) :
    Place → List (EnvelopeKey × String)
  | .taken index => fields.modify index fun field => (field.1, value)
  | .vacant index => fields.insertIdx index (key, value)

/-- The place of a key: that of the value with the key, or the one between the keys below it and
those above it. -/
inductive IsPlace (key : EnvelopeKey) : List (EnvelopeKey × String) → Place → Prop
  | taken (before after : List (EnvelopeKey × String)) (old : String) :
      IsPlace key (before ++ (key, old) :: after) (.taken before.length)
  | vacant {before after : List (EnvelopeKey × String)}
      (hbefore : ∀ field ∈ before, field.1.rank < key.rank)
      (hafter : ∀ field ∈ after, key.rank < field.1.rank) :
      IsPlace key (before ++ after) (.vacant before.length)

/-- A search that finds the place of every key among values in canonical order. -/
def IsSearch (search : EnvelopeKey → List (EnvelopeKey × String) → Place) : Prop :=
  ∀ key (fields : List (EnvelopeKey × String)),
    (fields.Pairwise fun a b => a.1.rank < b.1.rank) → IsPlace key fields (search key fields)

variable {key : EnvelopeKey} {fields : List (EnvelopeKey × String)}

/-! ## Setting a value at its place -/

/-- A value is put behind all values with keys below its own. -/
theorem putField_append {before : List (EnvelopeKey × String)}
    (h : ∀ field ∈ before, field.1.rank < key.rank) (value : String)
    (after : List (EnvelopeKey × String)) :
    putField key value (before ++ after) = before ++ putField key value after := by
  induction before with
  | nil => rfl
  | cons field before ih =>
    have hlt : field.1.rank < key.rank := h field List.mem_cons_self
    have hne : key ≠ field.1 := fun heq => Nat.lt_irrefl _ (heq ▸ hlt)
    have hrest := ih fun other hother => h other (List.mem_cons_of_mem _ hother)
    rw [List.cons_append, putField, if_neg (Nat.lt_asymm hlt), if_neg hne, hrest, List.cons_append]

/-- A value is put in front of values with keys above its own. -/
theorem putField_of_lt (h : ∀ field ∈ fields, key.rank < field.1.rank) (value : String) :
    putField key value fields = (key, value) :: fields := by
  cases fields with
  | nil => rfl
  | cons field rest => rw [putField, if_pos (h field List.mem_cons_self)]

theorem insertIdx_length_append {α : Type} (entry : α) (before after : List α) :
    (before ++ after).insertIdx before.length entry = before ++ entry :: after := by
  induction before with
  | nil => rfl
  | cons first before ih =>
    rw [List.cons_append, List.length_cons, List.insertIdx_succ_cons, ih, List.cons_append]

/-- A value set at the place of its key is put in order. -/
theorem putAt_eq_putField (hascending : fields.Pairwise fun a b => a.1.rank < b.1.rank)
    {place : Place} (h : IsPlace key fields place) (value : String) :
    putAt key value fields place = putField key value fields := by
  cases h with
  | taken before after old =>
    have hbefore : ∀ field ∈ before, field.1.rank < key.rank := by
      intro field hfield
      exact (List.pairwise_append.1 hascending).2.2 field hfield _ List.mem_cons_self
    rw [putField_append hbefore, putField, if_neg (Nat.lt_irrefl _), if_pos rfl, putAt,
      List.modify_eq_take_drop, List.take_left, List.drop_left, List.modifyHead_cons]
  | vacant hbefore hafter =>
    rw [putField_append hbefore, putField_of_lt hafter, putAt, insertIdx_length_append]

/-! ## Halving -/

/-- The last value that is left of a stretch after halving it again and again: the one with the
greatest key that is not above the given one, if there is such a key. -/
def halve (key : EnvelopeKey) (fields : List (EnvelopeKey × String)) (base size : Nat) : Nat :=
  if size ≤ 1 then base
  else
    let middle := base + size / 2
    match fields[middle]? with
    | some field =>
      halve key fields (if key.rank < field.1.rank then base else middle) (size - size / 2)
    | none => base
termination_by size

/-- The place that halving finds. -/
def placeOf (key : EnvelopeKey) (fields : List (EnvelopeKey × String)) : Place :=
  let last := halve key fields 0 fields.length
  match fields[last]? with
  | some field =>
    if field.1 = key then .taken last
    else if field.1.rank < key.rank then .vacant (last + 1)
    else .vacant last
  | none => .vacant 0

/-- A stretch of values outside of which the key does not stand. -/
structure IsStretch (key : EnvelopeKey) (fields : List (EnvelopeKey × String)) (base size : Nat) :
    Prop where
  pos : 0 < size
  within : base + size ≤ fields.length
  below : ∀ field ∈ fields.take base, field.1.rank < key.rank
  above : ∀ field ∈ fields.drop (base + size), key.rank < field.1.rank

variable {base size : Nat}

/-- Every value splits the values in order into those with keys below its own and those above. -/
theorem exists_split (h : fields.Pairwise fun a b => a.1.rank < b.1.rank) {index : Nat}
    {field : EnvelopeKey × String} (hfield : fields[index]? = some field) :
    fields.drop index = field :: fields.drop (index + 1) ∧
      (∀ other ∈ fields.take index, other.1.rank < field.1.rank) ∧
      ∀ other ∈ fields.drop (index + 1), field.1.rank < other.1.rank := by
  obtain ⟨hlt, rfl⟩ := List.getElem?_eq_some_iff.1 hfield
  have hdrop := List.drop_eq_getElem_cons hlt
  have hparts := fields.take_append_drop index
  rw [← hparts, hdrop, List.pairwise_append, List.pairwise_cons] at h
  obtain ⟨-, ⟨habove, -⟩, hbelow⟩ := h
  exact ⟨hdrop, fun other hother => hbelow other hother _ List.mem_cons_self, habove⟩

/-- Halving a stretch leaves a single value outside of which the key does not stand. -/
theorem IsStretch.halve (h : IsStretch key fields base size)
    (hascending : fields.Pairwise fun a b => a.1.rank < b.1.rank) :
    IsStretch key fields (halve key fields base size) 1 := by
  fun_induction Envelope.halve key fields base size with
  | case1 base size hsize =>
    have hone : size = 1 := Nat.le_antisymm hsize h.pos
    exact hone ▸ h
  | case2 base size hsize middle field hfield ih =>
    have hwithin := h.within
    obtain ⟨hdrop, hbelow, habove⟩ := exists_split hascending hfield
    apply ih
    split
    · next hlt =>
      refine ⟨by omega, by omega, h.below, ?_⟩
      -- The value in the middle is above the key, and so are those behind it.
      intro other hother
      have hle : middle ≤ base + (size - size / 2) := by omega
      have hmem := List.drop_subset_drop_left fields hle hother
      rw [hdrop] at hmem
      rcases List.mem_cons.1 hmem with rfl | hmem
      · exact hlt
      · exact Nat.lt_trans hlt (habove other hmem)
    · next hge =>
      have hend : middle + (size - size / 2) = base + size := by omega
      refine ⟨by omega, by omega, ?_, hend ▸ h.above⟩
      intro other hother
      exact Nat.lt_of_lt_of_le (hbelow other hother) (Nat.le_of_not_lt hge)
  | case3 base size hsize middle hnone =>
    have hwithin := h.within
    have hlength := List.getElem?_eq_none_iff.1 hnone
    omega

/-- A key that is not among the values belongs between those below it and those above it. -/
theorem isPlace_vacant {index : Nat} (hindex : index ≤ fields.length)
    (hbefore : ∀ field ∈ fields.take index, field.1.rank < key.rank)
    (hafter : ∀ field ∈ fields.drop index, key.rank < field.1.rank) :
    IsPlace key fields (.vacant index) := by
  have hplace := IsPlace.vacant hbefore hafter
  rwa [List.take_append_drop, List.length_take_of_le hindex] at hplace

/-- Halving finds the place of every key among values in canonical order. -/
theorem isSearch_placeOf : IsSearch placeOf := by
  intro key fields hascending
  cases hlength : fields.length with
  | zero =>
    rw [List.length_eq_zero_iff.1 hlength]
    exact isPlace_vacant (Nat.le_refl 0) (by simp) (by simp)
  | succ n =>
    have hall : IsStretch key fields 0 fields.length := ⟨by omega, by omega, by simp, by simp⟩
    have hlast := hall.halve hascending
    have hwithin := hlast.within
    rw [placeOf]
    generalize halve key fields 0 fields.length = last at hlast hwithin
    have hfield : fields[last]? = some fields[last] := List.getElem?_eq_getElem (by omega)
    obtain ⟨hdrop, hbelow, habove⟩ := exists_split hascending hfield
    simp only [hfield]
    split
    · next heq =>
      have hentry : (key, fields[last].2) = fields[last] := Prod.ext heq.symm rfl
      have hplace : IsPlace key _ _ :=
        .taken (fields.take last) (fields.drop (last + 1)) fields[last].2
      rwa [hentry, ← hdrop, List.take_append_drop, List.length_take_of_le (by omega)] at hplace
    · next hne =>
      split
      · next hlt =>
        apply isPlace_vacant hwithin _ hlast.above
        intro other hother
        rw [← List.take_append_getElem (by omega), List.mem_append, List.mem_singleton] at hother
        rcases hother with hother | rfl
        · exact hlast.below other hother
        · exact hlt
      · next hge =>
        have hrank : key.rank ≠ fields[last].1.rank :=
          fun heq => hne (EnvelopeKey.rank_injective heq.symm)
        apply isPlace_vacant (by omega) hlast.below
        intro other hother
        rw [hdrop, List.mem_cons] at hother
        rcases hother with rfl | hother
        · exact Nat.lt_of_le_of_ne (Nat.le_of_not_lt hge) hrank
        · exact hlast.above other hother

end Envelope

end GridAccess
