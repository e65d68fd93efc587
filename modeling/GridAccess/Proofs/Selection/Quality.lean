import GridAccess.Catalogue.Ascending
import GridAccess.Proofs.Result
import GridAccess.Selection.Quality

/-!
# Requirements in the order of their tags

Requirements grow by one tag and number at a time, and stay in ascending order of the tags, with one
number for each tag.

## Main definitions

- `QualityRequirements.Obtainable` — the requirements that can be had

## Main statements

- `QualityRequirements.Obtainable.ascending` — they stand in the order of their tags
- `QualityRequirements.obtainable_of_parse` — those that are read are among them
-/

namespace GridAccess.QualityRequirements

variable {requirements more : QualityRequirements} {tag : String} {count : UInt64}
  {counts result : List (String × UInt64)}

/-- The requirements that can be had: none, and those that ask for more. -/
inductive Obtainable : QualityRequirements → Prop where
  | none : Obtainable none
  | add {requirements more : QualityRequirements} {tag : String} {count : UInt64}
      (h : Obtainable requirements) (hadd : requirements.add tag count = .ok more) :
      Obtainable more

/-- Adding to a tag puts the sum with the number present in its place, if that is a 64-bit number.
-/
theorem addCount?_eq (h : counts.Pairwise fun a b => a.1 < b.1) (tag : String) (count : UInt64) :
    addCount? tag count counts =
      if ((counts.lookup tag).getD 0).toNat + count.toNat < UInt64.size then
        some (Ascending.put Prod.fst (tag, (counts.lookup tag).getD 0 + count) counts)
      else Option.none := by
  induction counts with
  | nil =>
    have hcount : (0 : UInt64).toNat + count.toNat < UInt64.size := by
      simpa using count.toNat_lt
    rw [List.lookup_nil, Option.getD_none, if_pos hcount, UInt64.zero_add]
    rfl
  | cons first rest ih =>
    obtain ⟨other, present⟩ := first
    obtain ⟨hfirst, hrest⟩ := List.pairwise_cons.1 h
    rw [addCount?, Ascending.put]
    rcases Std.lt_trichotomy tag other with hlt | rfl | hgt
    · -- All tags in the list stand behind this one.
      have habsent : ((other, present) :: rest).lookup tag = Option.none := by
        rw [List.lookup_eq_none_iff]
        intro entry hentry
        have hbehind : tag < entry.1 := by
          rcases List.mem_cons.1 hentry with rfl | hentry
          · exact hlt
          · exact Std.lt_trans hlt (hfirst entry hentry)
        simpa using Std.ne_of_lt hbehind
      have hcount : (0 : UInt64).toNat + count.toNat < UInt64.size := by
        simpa using count.toNat_lt
      rw [if_pos hlt, if_pos hlt, habsent, Option.getD_none, if_pos hcount, UInt64.zero_add]
    · rw [if_neg Std.lt_irrefl, if_pos rfl, if_neg Std.lt_irrefl, if_neg Std.lt_irrefl,
        List.lookup_cons_self, Option.getD_some]
    · have hne : tag ≠ other := (Std.ne_of_lt hgt).symm
      have hge : ¬tag < other := Std.not_gt_of_lt hgt
      rw [if_neg hge, if_neg hne, if_neg hge, if_pos hgt, ih hrest, List.lookup_cons,
        beq_eq_false_iff_ne.2 hne]
      split <;> rfl

/-- Adding to a tag keeps the order. -/
theorem ascending_addCount? (hcounts : counts.Pairwise fun a b => a.1 < b.1)
    (h : addCount? tag count counts = some result) : result.Pairwise fun a b => a.1 < b.1 := by
  rw [addCount?_eq hcounts, Option.ite_none_right_eq_some, Option.some.injEq] at h
  rw [← h.2]
  exact Ascending.pairwise_put _ hcounts

/-- Requirements stand in the order of their tags. -/
theorem Obtainable.ascending (h : requirements.Obtainable) :
    requirements.counts.Pairwise fun a b => a.1 < b.1 := by
  induction h with
  | none => exact .nil
  | add _ hadd ih =>
    rw [QualityRequirements.add] at hadd
    split at hadd
    · cases hadd
      exact ih
    · split at hadd
      · next counts hcounts =>
        cases hadd
        exact ascending_addCount? ih hcounts
      · cases hadd

/-- The requirements that a text states can be had. -/
theorem obtainable_of_parse {text : String} (h : parse text = .ok requirements) :
    requirements.Obtainable := by
  have hpieces : ∀ (pieces : List (List Char)) (before : QualityRequirements), before.Obtainable →
      pieces.foldlM addPiece before = .ok requirements → requirements.Obtainable := by
    intro pieces
    induction pieces with
    | nil =>
      intro before hbefore hfold
      cases hfold
      exact hbefore
    | cons piece pieces ih =>
      intro before hbefore hfold
      rw [List.foldlM_cons, bind_eq_ok_iff] at hfold
      obtain ⟨after, hpiece, hfold⟩ := hfold
      refine ih after ?_ hfold
      rw [addPiece] at hpiece
      split at hpiece
      · exact .add hbefore hpiece
      · cases hpiece
  exact hpieces _ _ .none h

end GridAccess.QualityRequirements
