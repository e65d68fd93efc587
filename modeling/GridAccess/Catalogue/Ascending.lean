/-!
# Ascending lists

Entries are kept in a list that ascends by their keys, with one entry for each key.

## Main definitions

- `Ascending.put` — an entry put in its place, instead of an entry with the same key

## Main statements

- `Ascending.mem_of_mem_put` — no other entries are added
- `Ascending.pairwise_put` — the list stays in ascending order
- `Ascending.mem_put_iff` — the entry is in the list, and the entries with other keys stay
- `Ascending.eq_of_mem_iff` — a list in ascending order is determined by its entries
- `Ascending.lookup_eq_some_iff` — what is found among pairs with different keys
- `Ascending.lookup_put` — what is found after an entry was put in
-/

namespace GridAccess.Ascending

variable {α κ : Type} [LT κ] [DecidableLT κ] (key : α → κ)

/-- Put an entry in its place, instead of an entry with the same key. -/
def put (entry : α) : List α → List α
  | [] => [entry]
  | other :: rest =>
    if key entry < key other then entry :: other :: rest
    else if key other < key entry then other :: put entry rest
    else entry :: rest

/-- Putting an entry into a list adds no others. -/
theorem mem_of_mem_put {entry other : α} {entries : List α} (h : other ∈ put key entry entries) :
    other = entry ∨ other ∈ entries := by
  induction entries with
  | nil => exact Or.inl (by simpa [put] using h)
  | cons first rest ih =>
    unfold put at h
    split at h
    · simpa using h
    · split at h
      · rcases List.mem_cons.1 h with rfl | h
        · simp
        · exact (ih h).imp_right (List.mem_cons_of_mem _)
      · rcases List.mem_cons.1 h with rfl | h
        · simp
        · exact Or.inr (List.mem_cons_of_mem _ h)

section Ordered

variable [LE κ] [Std.IsLinearOrder κ] [Std.LawfulOrderLT κ] {key}

/-- Putting an entry into a list keeps the ascending order. -/
theorem pairwise_put (entry : α) {entries : List α}
    (h : entries.Pairwise fun a b => key a < key b) :
    (put key entry entries).Pairwise fun a b => key a < key b := by
  induction entries with
  | nil => exact List.pairwise_singleton _ _
  | cons first rest ih =>
    obtain ⟨hfirst, hrest⟩ := List.pairwise_cons.1 h
    unfold put
    split
    · next hlt =>
      refine List.pairwise_cons.2 ⟨?_, h⟩
      intro other hother
      rcases List.mem_cons.1 hother with rfl | hother
      · exact hlt
      · exact Std.lt_trans hlt (hfirst other hother)
    · next hge =>
      split
      · next hgt =>
        refine List.pairwise_cons.2 ⟨?_, ih hrest⟩
        intro other hother
        rcases mem_of_mem_put key hother with rfl | hother
        · exact hgt
        · exact hfirst other hother
      · next hle =>
        have hsame : key entry = key first :=
          Std.le_antisymm (Std.not_lt.1 hle) (Std.not_lt.1 hge)
        exact List.pairwise_cons.2 ⟨fun other hother => hsame ▸ hfirst other hother, hrest⟩

/-- The entries with other keys stay, and no others. -/
theorem mem_put_iff {entry other : α} {entries : List α}
    (h : entries.Pairwise fun a b => key a < key b) :
    other ∈ put key entry entries ↔ other = entry ∨ other ∈ entries ∧ key other ≠ key entry := by
  have hne : ∀ {a b : α}, key a < key b → key b ≠ key a := fun hlt heq =>
    Std.lt_irrefl (heq ▸ hlt : key _ < key _)
  induction entries with
  | nil => simp [put]
  | cons first rest ih =>
    obtain ⟨hfirst, hrest⟩ := List.pairwise_cons.1 h
    unfold put
    split
    · next hlt =>
      have hkept : other ∈ first :: rest → key other ≠ key entry := by
        intro hother
        rcases List.mem_cons.1 hother with rfl | hother
        · exact hne hlt
        · exact hne (Std.lt_trans hlt (hfirst other hother))
      rw [List.mem_cons, and_iff_left_of_imp hkept]
    · next hge =>
      split
      · next hgt =>
        have hkept : other = first → key other ≠ key entry := by
          rintro rfl
          exact (hne hgt).symm
        rw [List.mem_cons, List.mem_cons, or_and_right, and_iff_left_of_imp hkept]
        exact (or_congr_right (ih hrest)).trans or_left_comm
      · next hle =>
        have hsame : key entry = key first :=
          Std.le_antisymm (Std.not_lt.1 hle) (Std.not_lt.1 hge)
        have hkept : other ∈ rest → key other ≠ key entry := fun hother =>
          hsame ▸ hne (hfirst other hother)
        have hgone : ¬(other = first ∧ key other ≠ key entry) := by
          rintro ⟨rfl, hother⟩
          exact hother hsame.symm
        rw [List.mem_cons, List.mem_cons, or_and_right, and_iff_left_of_imp hkept,
          or_iff_right hgone]

end Ordered

section Entries

variable {ι ν : Type}

/-- In ascending order no key stands twice. -/
theorem nodup_keys [LT ν] [LE ν] [Std.IsLinearOrder ν] [Std.LawfulOrderLT ν] {key : ι → ν}
    {entries : List ι} (h : entries.Pairwise fun a b => key a < key b) :
    (entries.map key).Nodup := by
  rw [List.Nodup, List.pairwise_map]
  apply h.imp
  intro a b hlt heq
  exact Std.lt_irrefl (heq ▸ hlt : key b < key b)

/-- Lists in ascending order are the same if they have the same entries. -/
theorem eq_of_mem_iff [LT ν] [LE ν] [Std.IsLinearOrder ν] [Std.LawfulOrderLT ν] {key : ι → ν}
    {entries others : List ι} (h : entries.Pairwise fun a b => key a < key b)
    (hothers : others.Pairwise fun a b => key a < key b)
    (hmem : ∀ entry, entry ∈ entries ↔ entry ∈ others) : entries = others := by
  have hnodup : ∀ {entries : List ι}, (entries.map key).Nodup → entries.Nodup := fun hkeys =>
    List.Pairwise.of_map key (fun _ _ hne heq => hne (congrArg key heq)) hkeys
  have hperm : entries.Perm others :=
    (List.perm_ext_iff_of_nodup (hnodup (nodup_keys h)) (hnodup (nodup_keys hothers))).2 hmem
  apply List.Perm.eq_of_pairwise _ h hothers hperm
  intro a b _ _ hlt hgt
  exact absurd (Std.lt_trans hlt hgt) Std.lt_irrefl

/-- Among pairs with different keys, the value found for a key is the one that stands with it. -/
theorem lookup_eq_some_iff [BEq ν] [LawfulBEq ν] {pairs : List (ν × ι)}
    (h : (pairs.map Prod.fst).Nodup) {key : ν} {value : ι} :
    pairs.lookup key = some value ↔ (key, value) ∈ pairs := by
  constructor
  · intro hlookup
    obtain ⟨front, back, hpairs, -⟩ := List.lookup_eq_some_iff.1 hlookup
    rw [hpairs]
    simp
  · intro hmem
    obtain ⟨front, back, hpairs⟩ := List.append_of_mem hmem
    refine List.lookup_eq_some_iff.2 ⟨front, back, hpairs, ?_⟩
    intro pair hpair
    rw [hpairs, List.map_append, List.nodup_append] at h
    have hne := h.2.2 pair.1 (List.mem_map_of_mem hpair) key (by simp)
    simpa using hne.symm

/-- An entry that is put in is found for its key, and for other keys what was found before. -/
theorem lookup_put [LT ν] [DecidableLT ν] [LE ν] [Std.IsLinearOrder ν] [Std.LawfulOrderLT ν]
    [DecidableEq ν] {pairs : List (ν × ι)} (h : pairs.Pairwise fun a b => a.1 < b.1)
    (key other : ν) (value : ι) : (put Prod.fst (key, value) pairs).lookup other =
      if other = key then some value else pairs.lookup other := by
  ext found
  rw [lookup_eq_some_iff (nodup_keys (pairwise_put (key, value) h)), mem_put_iff h]
  split
  · next heq => simp [heq, eq_comm]
  · next hne => simp [hne, lookup_eq_some_iff (nodup_keys h)]

end Entries

end GridAccess.Ascending
