import GridAccess.Text.Blank
import GridAccess.Text.Search
import Mathlib.Data.List.Infix
import Mathlib.Data.List.Lattice
import Mathlib.Data.List.TakeWhile

/-!
# Occurrences of marks

A mark occurs in a text if the text has it as an infix. Cutting finds an occurrence if there is one,
and it finds the first.

A line joins pieces with a separator. A mark without the separator occurs in a line exactly if it
occurs in one of the pieces, so joining pieces makes no new marks. Nor do escapes make or break a
mark that has none of their characters.

## Main definitions

- `WritesApart` — escapes that have nothing to do with a mark
- `IsTrimmed` — a text without white space at its ends

## Main statements

- `contains_iff_isInfix` — looking for a mark decides whether it occurs
- `cut_eq_some_iff` — a text is cut at the first occurrence of a mark
- `cut_append_of_not_isInfix` — a text is cut at a mark behind a part that does not hold it
- `cut_concat_eq_some_iff` — a text is cut at the first occurrence of a mark with a last character of
  its own
- `cutLast_append_of_not_isInfix` — a text is cut for the last time where its mark does not follow
- `isInfix_intercalate_iff` — the marks in a line are those in its pieces
- `isInfix_flatMap_iff` — the marks in an escaped text are those in the text
- `trim_eq_self` — a text without white space at its ends is not changed by trimming
- `trim_append_append` — white space put around such a text is removed
-/

namespace GridAccess.Text

variable {mark text before after : List Char}

/-! ## Cutting -/

/-- A mark is found exactly if it occurs. -/
theorem cut_isSome_iff_isInfix : (cut mark text).isSome ↔ mark <:+: text := by
  induction text with
  | nil =>
    rw [cut, Option.isSome_map, List.infix_nil]
    constructor
    · intro h
      obtain ⟨rest, hrest⟩ := Option.isSome_iff_exists.1 h
      have happ := stripStart?_eq_some_iff.1 hrest
      exact (List.append_eq_nil_iff.1 happ.symm).1
    · rintro rfl
      rfl
  | cons c text ih =>
    rw [cut, List.infix_cons_iff]
    cases hstrip : stripStart? mark (c :: text) with
    | some rest =>
      have happ := stripStart?_eq_some_iff.1 hstrip
      simp only [Option.isSome_some, true_iff]
      exact Or.inl ⟨rest, happ.symm⟩
    | none =>
      have hno : ¬mark <+: c :: text := by
        rintro ⟨rest, hrest⟩
        rw [stripStart?_eq_some_iff.2 hrest.symm] at hstrip
        cases hstrip
      simp only [Option.isSome_map, ih, hno, false_or]

theorem cut_eq_none_iff : cut mark text = none ↔ ¬mark <:+: text := by
  rw [← cut_isSome_iff_isInfix, Option.not_isSome_iff_eq_none]

theorem contains_iff_isInfix : contains mark text = true ↔ mark <:+: text :=
  cut_isSome_iff_isInfix

/-- What follows a text does not change where its first mark is found. -/
theorem cut_append_of_some (h : cut mark text = some (before, after)) (tail : List Char) :
    cut mark (text ++ tail) = some (before, after ++ tail) := by
  induction text generalizing before with
  | nil =>
    simp only [cut, Option.map_eq_some_iff, stripStart?_eq_some_iff] at h
    obtain ⟨rest, hrest, hparts⟩ := h
    obtain ⟨rfl, rfl⟩ := List.append_eq_nil_iff.1 hrest.symm
    cases hparts
    cases tail <;> rfl
  | cons c text ih =>
    rw [cut] at h
    rw [List.cons_append, cut]
    cases hstrip : stripStart? mark (c :: text) with
    | some rest =>
      rw [hstrip] at h
      cases h
      have happ := stripStart?_eq_some_iff.1 hstrip
      have hlonger : stripStart? mark (c :: (text ++ tail)) = some (after ++ tail) := by
        rw [stripStart?_eq_some_iff, ← List.cons_append, happ, List.append_assoc]
      rw [hlonger]
    | none =>
      rw [hstrip] at h
      obtain ⟨⟨before', after'⟩, hcut, hparts⟩ := Option.map_eq_some_iff.1 h
      cases hparts
      have hno : stripStart? mark (c :: (text ++ tail)) = none := by
        rw [Option.eq_none_iff_forall_ne_some]
        intro rest hrest
        -- The mark would have to reach into `tail`, but it occurs within `text`.
        have happ := stripStart?_eq_some_iff.1 hrest
        have hlen := congrArg List.length (cut_append hcut)
        simp only [List.length_append] at hlen
        have hmarkPart : mark <+: c :: text ++ tail := ⟨rest, happ.symm⟩
        have hpre : mark <+: c :: text := by
          apply List.prefix_of_prefix_length_le hmarkPart (List.prefix_append _ _)
          simp only [List.length_cons]
          omega
        obtain ⟨more, hmore⟩ := hpre
        rw [stripStart?_eq_some_iff.2 hmore.symm] at hstrip
        cases hstrip
      rw [hno]
      simp only [ih hcut, Option.map_some]

/-- A text is cut at a mark behind a part that does not hold it, not even together with the front of
the mark itself. -/
theorem cut_append_of_not_isInfix (hmark : mark ≠ []) (h : ¬mark <:+: before ++ mark.dropLast)
    (after : List Char) : cut mark (before ++ mark ++ after) = some (before, after) := by
  induction before with
  | nil =>
    cases hm : mark with
    | nil => exact absurd hm hmark
    | cons m rest =>
      have hstrip : stripStart? (m :: rest) (m :: (rest ++ after)) = some after :=
        stripStart?_append (m :: rest) after
      simp only [List.nil_append, List.cons_append, cut, hstrip]
  | cons c before ih =>
    have hno : stripStart? mark (c :: (before ++ mark ++ after)) = none := by
      rw [Option.eq_none_iff_forall_ne_some]
      intro rest hrest
      have happ := stripStart?_eq_some_iff.1 hrest
      apply h
      have hmarkPart : mark <+: c :: before ++ mark ++ after := ⟨rest, happ.symm⟩
      have hpart : c :: before ++ mark.dropLast <+: c :: before ++ mark ++ after := by
        refine ⟨[mark.getLast hmark] ++ after, ?_⟩
        rw [← List.append_assoc, List.append_assoc (c :: before), List.dropLast_concat_getLast]
      -- A mark at this place would end before the last character of the one that was put there.
      have hpre : mark <+: c :: before ++ mark.dropLast := by
        apply List.prefix_of_prefix_length_le hmarkPart hpart
        have hpos := List.length_pos_iff.2 hmark
        simp only [List.length_append, List.length_cons, List.length_dropLast]
        omega
      exact hpre.isInfix
    have hrest : ¬mark <:+: before ++ mark.dropLast := fun hin => h (List.infix_cons hin)
    simp only [List.cons_append, cut, hno, ih hrest, Option.map_some]

/-- A text is cut at the first occurrence of a mark: the part before it does not hold the mark, not
even together with the front of the mark. -/
theorem cut_eq_some_iff (hmark : mark ≠ []) : cut mark text = some (before, after) ↔
    text = before ++ mark ++ after ∧ ¬mark <:+: before ++ mark.dropLast := by
  constructor
  · intro h
    have htext := cut_append h
    refine ⟨htext, ?_⟩
    intro hoccurs
    obtain ⟨⟨front, back⟩, hcut⟩ := Option.isSome_iff_exists.1 (cut_isSome_iff_isInfix.2 hoccurs)
    -- An occurrence before the one that was found would be found first.
    have hfirst := cut_append_of_some hcut ([mark.getLast hmark] ++ after)
    have hwhole : before ++ mark.dropLast ++ ([mark.getLast hmark] ++ after) = text := by
      rw [htext, List.append_assoc before, ← List.append_assoc mark.dropLast,
        List.dropLast_concat_getLast, List.append_assoc]
    rw [hwhole, h, Option.some.injEq, Prod.mk.injEq] at hfirst
    have hlength := congrArg List.length (cut_append hcut)
    have hpos := List.length_pos_iff.2 hmark
    simp only [List.length_append, List.length_dropLast, ← hfirst.1] at hlength
    omega
  · rintro ⟨rfl, h⟩
    exact cut_append_of_not_isInfix hmark h after

/-- The part before the first occurrence of a mark does not hold it. -/
theorem not_isInfix_of_cut (hmark : mark ≠ []) (h : cut mark text = some (before, after)) :
    ¬mark <:+: before := by
  intro hoccurs
  exact ((cut_eq_some_iff hmark).1 h).2 (hoccurs.trans (List.prefix_append _ _).isInfix)

theorem cut_singleton_eq_some_iff {c : Char} :
    cut [c] text = some (before, after) ↔ text = before ++ c :: after ∧ c ∉ before := by
  rw [cut_eq_some_iff (List.cons_ne_nil c []), List.append_assoc, List.singleton_append,
    List.dropLast_singleton, List.append_nil, List.singleton_infix_iff]

/-- A mark that ends with a character of its own does not begin in a text without it and end in the
front of another such mark. -/
theorem not_isInfix_append_front {front : List Char} {c : Char} (h : c ∉ front)
    (hbefore : ¬front ++ [c] <:+: before) : ¬front ++ [c] <:+: before ++ front := by
  intro hoccurs
  rcases List.infix_append_iff.1 hoccurs with hin | hin | ⟨start, rest, hmark, hstart, hrest⟩
  · exact hbefore hin
  · exact h (hin.subset (by simp))
  · rcases List.eq_nil_or_concat rest with rfl | ⟨rest, d, rfl⟩
    · rw [List.append_nil] at hmark
      exact hbefore (hmark ▸ hstart.isInfix)
    · rw [List.concat_eq_append, ← List.append_assoc] at hmark
      obtain ⟨-, hlast⟩ := List.append_inj' hmark rfl
      apply h
      apply hrest.subset
      simp [List.singleton_inj.1 hlast]

/-- A text is cut at the first occurrence of a mark that ends with a character of its own: one that
the part before it does not hold. -/
theorem cut_concat_eq_some_iff {front : List Char} {c : Char} (h : c ∉ front) :
    cut (front ++ [c]) text = some (before, after) ↔
      text = before ++ (front ++ [c]) ++ after ∧ ¬front ++ [c] <:+: before := by
  constructor
  · intro hcut
    exact ⟨cut_append hcut, not_isInfix_of_cut (by simp) hcut⟩
  · rintro ⟨rfl, hbefore⟩
    apply cut_append_of_not_isInfix (by simp)
    rw [List.dropLast_concat]
    exact not_isInfix_append_front h hbefore

/-! ## Marks in lines -/

/-- A mark without a separator occurs on one side of the separator or on the other. -/
theorem isInfix_append_cons_iff {c : Char} (h : c ∉ mark) :
    mark <:+: before ++ c :: after ↔ mark <:+: before ∨ mark <:+: after := by
  -- What lies across the separator would start with it from there on.
  have hstarts : ∀ part : List Char, c ∉ part → part <+: c :: after → part = [] := by
    intro part hpart hpre
    cases part with
    | nil => rfl
    | cons d part =>
      obtain ⟨rfl, -⟩ := List.cons_prefix_cons.1 hpre
      exact absurd List.mem_cons_self hpart
  constructor
  · intro hin
    rcases List.infix_append_iff.1 hin with hbefore | hafter | ⟨front, back, rfl, hfront, hback⟩
    · exact Or.inl hbefore
    · rcases List.infix_cons_iff.1 hafter with hpre | hafter
      · rw [hstarts mark h hpre]
        exact Or.inl List.nil_infix
      · exact Or.inr hafter
    · have hnil := hstarts back (fun hmem => h (List.mem_append_right _ hmem)) hback
      rw [hnil, List.append_nil]
      exact Or.inl hfront.isInfix
  · rintro (hbefore | hafter)
    · exact List.infix_append_of_infix_left hbefore
    · exact List.infix_append_of_infix_right (List.infix_cons hafter)

/-- A mark does not begin in a text without it that ends with another character, and end behind it.
-/
theorem not_isInfix_append_dropLast {c : Char} (hmark : mark ≠ []) (h : c ∉ mark)
    (hbefore : ¬mark <:+: before) : ¬mark <:+: before ++ [c] ++ mark.dropLast := by
  rw [List.append_assoc, List.singleton_append, isInfix_append_cons_iff h, not_or]
  refine ⟨hbefore, ?_⟩
  intro hoccurs
  have hle := hoccurs.length_le
  have hpos := List.length_pos_iff.2 hmark
  rw [List.length_dropLast] at hle
  omega

/-- A text is cut at a mark behind a character that is not in the mark, if the mark does not occur
before that. -/
theorem cut_append_cons {c : Char} (hmark : mark ≠ []) (h : c ∉ mark) (hbefore : ¬mark <:+: before)
    (after : List Char) :
    cut mark (before ++ c :: mark ++ after) = some (before ++ [c], after) := by
  have hno := not_isInfix_append_dropLast hmark h hbefore
  simpa using cut_append_of_not_isInfix hmark hno after

theorem cut_mark_append (hmark : mark ≠ []) (after : List Char) :
    cut mark (mark ++ after) = some ([], after) := by
  have hno : ¬mark <:+: [] ++ mark.dropLast := by
    intro hoccurs
    have hle := hoccurs.length_le
    have hpos := List.length_pos_iff.2 hmark
    rw [List.nil_append, List.length_dropLast] at hle
    omega
  exact cut_append_of_not_isInfix hmark hno after

/-- A text is cut at a mark behind a part without the first character of the mark. -/
theorem cut_append_of_head_not_mem {c : Char} (h : c ∉ before) (mark after : List Char) :
    cut (c :: mark) (before ++ c :: mark ++ after) = some (before, after) := by
  induction before with
  | nil => exact cut_mark_append (List.cons_ne_nil c mark) after
  | cons d before ih =>
    have hno : stripStart? (c :: mark) (d :: (before ++ c :: mark ++ after)) = none := by
      rw [Option.eq_none_iff_forall_ne_some]
      intro rest hrest
      have happ := stripStart?_eq_some_iff.1 hrest
      rw [List.cons_append, List.cons.injEq] at happ
      exact h (happ.1 ▸ List.mem_cons_self)
    have hrest := ih fun hmem => h (List.mem_cons_of_mem _ hmem)
    rw [List.cons_append, List.cons_append, cut, hno]
    simp only [hrest, Option.map_some]

/-- A text is cut for the last time at a mark that does not occur again from its second character
on. -/
theorem cutLast_append_of_not_isInfix {c : Char} {mark : List Char}
    (h : ¬c :: mark <:+: mark ++ after) (before : List Char) :
    cutLast (c :: mark) (before ++ c :: mark ++ after) = some (before, after) := by
  induction before with
  | nil =>
    have hnone : cutLast (c :: mark) (mark ++ after) = none := by
      rw [Option.eq_none_iff_forall_ne_some]
      intro parts hparts
      exact h ⟨parts.1, parts.2, (cutLast_append hparts).symm⟩
    have hstrip : stripStart? (c :: mark) (c :: (mark ++ after)) = some after :=
      stripStart?_append (c :: mark) after
    rw [List.nil_append, List.cons_append, cutLast, hnone]
    simp only [hstrip, Option.map_some]
  | cons d before ih =>
    rw [List.cons_append, List.cons_append, cutLast, ih]

/-- A text is cut for the last time at a character that does not follow. -/
theorem cutLast_append_cons {c : Char} (h : c ∉ after) (before : List Char) :
    cutLast [c] (before ++ c :: after) = some (before, after) := by
  have hno : ¬[c] <:+: [] ++ after := by
    intro hoccurs
    exact h (hoccurs.subset List.mem_cons_self)
  simpa using cutLast_append_of_not_isInfix hno before

/-- The marks in a line are those in its pieces, if they do not hold the separator. -/
theorem isInfix_intercalate_iff {c : Char} (hmark : mark ≠ []) (h : c ∉ mark)
    (pieces : List (List Char)) :
    mark <:+: [c].intercalate pieces ↔ ∃ piece ∈ pieces, mark <:+: piece := by
  induction pieces with
  | nil => simp [hmark]
  | cons piece pieces ih =>
    cases pieces with
    | nil => simp
    | cons other pieces =>
      rw [List.intercalate_cons_cons, List.append_assoc, List.singleton_append,
        isInfix_append_cons_iff h, ih]
      simp

/-! ## Marks in escaped texts -/

/-- Every character is written as it is, unless it is not in the mark. Then something is written
instead that has no character of the mark either. -/
def WritesApart (mark : List Char) (write : Char → List Char) : Prop :=
  ∀ c, write c = [c] ∨ c ∉ mark ∧ write c ≠ [] ∧ ∀ d ∈ write c, d ∉ mark

theorem WritesApart.tail {m : Char} {write : Char → List Char} (h : WritesApart (m :: mark) write) :
    WritesApart mark write := by
  intro c
  rcases h c with hkept | ⟨hc, hne, hwritten⟩
  · exact Or.inl hkept
  · refine Or.inr ⟨fun hmem => hc (List.mem_cons_of_mem _ hmem), hne, ?_⟩
    intro d hd hmem
    exact hwritten d hd (List.mem_cons_of_mem _ hmem)

/-- Escapes have nothing to do with a mark that has none of the characters involved: those that are
replaced, and those that are written for them. -/
theorem writesApart_of_involved {involved : List Char} {write : Char → List Char}
    (hkept : ∀ c, c ∉ involved → write c = [c])
    (hwritten : ∀ c ∈ involved, write c ≠ [] ∧ ∀ d ∈ write c, d ∈ involved)
    (h : involved.Disjoint mark) : WritesApart mark write := by
  intro c
  by_cases hc : c ∈ involved
  · obtain ⟨hne, hmem⟩ := hwritten c hc
    exact Or.inr ⟨h hc, hne, fun d hd => h (hmem d hd)⟩
  · exact Or.inl (hkept c hc)

/-- A mark does not begin in a part without its characters. -/
theorem isInfix_append_iff_right (hmark : mark ≠ []) {front back : List Char}
    (h : ∀ c ∈ front, c ∉ mark) : mark <:+: front ++ back ↔ mark <:+: back := by
  induction front with
  | nil => rfl
  | cons c front ih =>
    have hno : ¬mark <+: c :: (front ++ back) := by
      intro hpre
      obtain ⟨m, rest, rfl⟩ := List.exists_cons_of_ne_nil hmark
      obtain ⟨rfl, -⟩ := List.cons_prefix_cons.1 hpre
      exact h m List.mem_cons_self List.mem_cons_self
    rw [List.cons_append, List.infix_cons_iff, or_iff_right hno]
    exact ih fun d hd => h d (List.mem_cons_of_mem _ hd)

theorem isPrefix_flatMap_iff {write : Char → List Char} (h : WritesApart mark write) :
    mark <+: text.flatMap write ↔ mark <+: text := by
  induction mark generalizing text with
  | nil => simp
  | cons m mark ih =>
    cases text with
    | nil => rfl
    | cons c text =>
      rw [List.flatMap_cons]
      rcases h c with hkept | ⟨hc, hne, hwritten⟩
      · rw [hkept, List.singleton_append, List.cons_prefix_cons, List.cons_prefix_cons, ih h.tail]
      · obtain ⟨d, rest, hd⟩ := List.exists_cons_of_ne_nil hne
        have hleft : m ≠ d := by
          rintro rfl
          exact hwritten m (by simp [hd]) List.mem_cons_self
        have hright : m ≠ c := by
          rintro rfl
          exact hc List.mem_cons_self
        simp only [hd, List.cons_append, List.cons_prefix_cons, hleft, hright, false_and]

/-- Escapes that have nothing to do with a mark neither make nor break it. -/
theorem isInfix_flatMap_iff (hmark : mark ≠ []) {write : Char → List Char}
    (h : WritesApart mark write) : mark <:+: text.flatMap write ↔ mark <:+: text := by
  induction text with
  | nil => rfl
  | cons c text ih =>
    rw [List.flatMap_cons]
    rcases h c with hkept | ⟨hc, -, hwritten⟩
    · have hpre : mark <+: (c :: text).flatMap write ↔ _ := isPrefix_flatMap_iff h
      rw [List.flatMap_cons, hkept] at hpre
      rw [hkept, List.singleton_append, List.infix_cons_iff, List.infix_cons_iff, ih, ← hpre,
        List.singleton_append]
    · have hsingle : mark <:+: [c] ++ text ↔ mark <:+: text :=
        isInfix_append_iff_right hmark (by simpa using hc)
      rw [isInfix_append_iff_right hmark hwritten, ih, ← hsingle, List.singleton_append]

/-! ## Trimming -/

theorem squeeze_append (front back : List Char) :
    squeeze (front ++ back) = squeeze front ++ squeeze back :=
  List.filter_append front back

theorem squeeze_trim (text : List Char) : squeeze (trim text) = squeeze text := by
  have hstart : squeeze (trimStart text) = squeeze text := by
    induction text with
    | nil => rfl
    | cons c text ih =>
      by_cases hc : isBlank c = true
      · rw [trimStart, List.dropWhile_cons_of_pos hc, ← trimStart, ih]
        simp [squeeze, hc]
      · rw [trimStart, List.dropWhile_cons_of_neg hc]
  have hend : squeeze (trimEnd (trimStart text)) = squeeze (trimStart text) := by
    obtain ⟨removed, hremoved, hblank⟩ := dropEnd_append_removed isBlank (trimStart text)
    have hnone : squeeze removed = [] := by
      rw [squeeze, List.filter_eq_nil_iff]
      intro c hc
      simp [hblank c hc]
    have hparts := congrArg squeeze hremoved
    rw [squeeze_append, hnone, List.append_nil] at hparts
    exact hparts.symm
  rw [trim, hend, hstart]

/-- A text neither starts nor ends with white space. -/
def IsTrimmed (text : List Char) : Prop :=
  (∀ c ∈ text.head?, isBlank c = false) ∧ (∀ c ∈ text.getLast?, isBlank c = false)

theorem trimStart_eq_self (h : ∀ c ∈ text.head?, isBlank c = false) : trimStart text = text := by
  cases text with
  | nil => rfl
  | cons c text =>
    have hc : isBlank c = false := h c rfl
    rw [trimStart, List.dropWhile_cons_of_neg (by simp [hc])]

/-- Nothing is removed from the end of a text if its last character is outside of the class. -/
theorem dropEnd_eq_self {p : Char → Bool} (h : ∀ c ∈ text.getLast?, p c = false) :
    dropEnd p text = text := by
  rcases List.eq_nil_or_concat text with rfl | ⟨front, c, rfl⟩
  · rfl
  · rw [List.concat_eq_append] at h ⊢
    exact dropEnd_concat_of_not p front (h c (by simp))

theorem trimEnd_eq_self (h : ∀ c ∈ text.getLast?, isBlank c = false) : trimEnd text = text :=
  dropEnd_eq_self h

theorem trim_eq_self (h : IsTrimmed text) : trim text = text := by
  rw [trim, trimStart_eq_self h.1, trimEnd_eq_self h.2]

/-- Only white space at the end is removed, so nothing before another character. -/
theorem trimEnd_append_cons {c : Char} (h : isBlank c = false) (front back : List Char) :
    trimEnd (front ++ c :: back) = front ++ c :: trimEnd back := by
  have hkept : ∀ rest : List Char, dropEnd isBlank rest ≠ [] → ∀ d,
      dropEnd isBlank (d :: rest) = d :: dropEnd isBlank rest := by
    intro rest hrest d
    rw [dropEnd]
    split
    · next hnil => exact absurd hnil hrest
    · rfl
  induction front with
  | nil =>
    rw [List.nil_append, List.nil_append, trimEnd, trimEnd, dropEnd]
    split
    · next hnil => rw [hnil, if_neg (by simp [h])]
    · rfl
  | cons d front ih =>
    rw [trimEnd] at ih ⊢
    rw [List.cons_append, hkept _ (by simp [ih]), ih, List.cons_append]

/-- Characters of the class at the end of a text are removed. -/
theorem dropEnd_append {p : Char → Bool} {back : List Char} (h : ∀ c ∈ back, p c = true)
    (text : List Char) : dropEnd p (text ++ back) = dropEnd p text := by
  have hnone : dropEnd p back = [] := by
    induction back with
    | nil => rfl
    | cons c back ih =>
      have hback := ih fun d hd => h d (List.mem_cons_of_mem _ hd)
      rw [dropEnd, hback, h c List.mem_cons_self]
      rfl
  induction text with
  | nil => exact hnone
  | cons c text ih => rw [List.cons_append, dropEnd, dropEnd, ih]

theorem trimEnd_append {back : List Char} (h : ∀ c ∈ back, isBlank c = true) (text : List Char) :
    trimEnd (text ++ back) = trimEnd text :=
  dropEnd_append h text

theorem trim_append {back : List Char} (h : ∀ c ∈ back, isBlank c = true) (text : List Char) :
    trim (text ++ back) = trim text := by
  have hnone : (back ++ []).dropWhile isBlank = [] := List.dropWhile_append_of_pos h
  rw [List.append_nil] at hnone
  rw [trim, trim, trimStart, trimStart, List.dropWhile_append]
  split
  · next hempty => rw [hnone, List.isEmpty_iff.1 hempty]
  · exact trimEnd_append h _

/-- White space around a text is removed, and nothing else. -/
theorem trim_append_append {front back : List Char} (hfront : ∀ c ∈ front, isBlank c = true)
    (hback : ∀ c ∈ back, isBlank c = true) (h : IsTrimmed text) :
    trim (front ++ text ++ back) = text := by
  have hstart : trimStart (front ++ text) = text := by
    rw [trimStart, List.dropWhile_append_of_pos hfront]
    exact trimStart_eq_self h.1
  rw [trim_append hback, trim, hstart, trimEnd_eq_self h.2]

theorem isTrimmed_of_ends {first last : Char} (hfirst : text.head? = some first)
    (hlast : text.getLast? = some last) (h : isBlank first = false ∧ isBlank last = false) :
    IsTrimmed text := by
  refine ⟨?_, ?_⟩
  · intro c hc
    rw [hfirst] at hc
    cases hc
    exact h.1
  · intro c hc
    rw [hlast] at hc
    cases hc
    exact h.2

/-- Only white space is removed. -/
theorem exists_append_trim_append (text : List Char) :
    ∃ front back, text = front ++ trim text ++ back ∧ (∀ c ∈ front, isBlank c = true) ∧
      ∀ c ∈ back, isBlank c = true := by
  obtain ⟨back, hback, hblank⟩ := dropEnd_append_removed isBlank (trimStart text)
  refine ⟨text.takeWhile isBlank, back, ?_, fun c hc => List.mem_takeWhile_imp hc, hblank⟩
  rw [List.append_assoc]
  exact (List.takeWhile_append_dropWhile).symm.trans (congrArg _ hback)

theorem trim_isInfix (text : List Char) : trim text <:+: text := by
  obtain ⟨front, back, htext, -, -⟩ := exists_append_trim_append text
  exact ⟨front, back, htext.symm⟩

theorem isTrimmed_trim (text : List Char) : IsTrimmed (trim text) := by
  refine ⟨?_, ?_⟩
  · intro c hc
    obtain ⟨removed, hremoved, -⟩ := dropEnd_append_removed isBlank (trimStart text)
    have hhead : (trimStart text).head? = some c := by
      rw [hremoved, List.head?_append]
      exact Option.or_eq_some_iff.2 (Or.inl hc)
    have hnot := List.head?_dropWhile_not isBlank text
    rw [← trimStart, hhead] at hnot
    exact hnot
  · intro c hc
    rcases dropEnd_eq_nil_or isBlank (trimStart text) with hnil | ⟨front, d, hlast, hd⟩
    · have htrim : trim text = [] := hnil
      rw [htrim] at hc
      cases hc
    · have htrim : trim text = front ++ [d] := hlast
      rw [htrim, List.getLast?_concat] at hc
      cases hc
      exact hd

/-- Trimming changes exactly the texts with white space at their ends. -/
theorem trim_eq_self_iff : trim text = text ↔ IsTrimmed text := by
  constructor
  · intro h
    exact h ▸ isTrimmed_trim text
  · exact trim_eq_self

end GridAccess.Text
