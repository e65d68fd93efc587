import GridAccess.Proofs.Result
import GridAccess.Proofs.Selection.Quality
import GridAccess.Proofs.Text.Occurrence
import Mathlib.Algebra.GroupWithZero.Nat
import Mathlib.Data.List.Forall2
import Mathlib.Data.List.Induction

/-!
# Requirements as totals

Each piece of a text states a number for a tag. Requirements are the totals: every tag has the exact
sum of the numbers that are stated for it, in whatever order and case of letters they are stated.
Reading goes from piece to piece. It ends at the first piece that states nothing, and it does not
even get there if the numbers before it add up to more than 64 bits.

## Main definitions

- `QualityRequirements.States` — a piece states a number for a tag
- `QualityRequirements.total` — the exact sum of the numbers for a tag
- `QualityRequirements.IsSum` — requirements that are the totals of numbers
- `QualityRequirements.Outcome` — what comes of reading pieces

## Main statements

- `QualityRequirements.readPiece_eq_ok_iff` — a piece is read as what it states
- `QualityRequirements.IsSum.mem_iff` — the entries of requirements are the totals that are not zero
- `QualityRequirements.exists_outcome`, `QualityRequirements.Outcome.foldlM_addPiece` — something
  comes of all pieces, and it is what reading gives
- `quality_totals` — what a text of requirements is read as
-/

namespace GridAccess

open Text

namespace QualityRequirements

variable {requirements more result : QualityRequirements} {tag : String} {count : UInt64}
  {entry : String × UInt64} {entries others : List (String × UInt64)} {piece : List Char}
  {pieces : List (List Char)}

/-! ## Pieces -/

/-- A piece states a number for a tag: the tag stands in front of the first equals sign, and the
number in decimal digits behind it, after an optional plus sign. White space around them is left
out. -/
inductive States : List Char → String × UInt64 → Prop where
  | intro {front back digits : List Char} {count : UInt64} (hfront : '=' ∉ front)
      (hback : trim back = digits ∨ trim back = '+' :: digits) (hne : digits ≠ [])
      (hdigits : ∀ c ∈ digits, c.isDigit = true)
      (hcount : Nat.ofDigitChars 10 digits 0 = count.toNat) :
      States (front ++ '=' :: back) (String.ofList (trim front), count)

/-- A piece is read as the number and the tag that it states. -/
theorem readPiece_eq_ok_iff : readPiece piece = .ok entry ↔ States piece entry := by
  rw [readPiece]
  constructor
  · intro h
    split at h
    · cases h
    · next front back hcut =>
      split at h
      · next count hcount =>
        cases h
        obtain ⟨rfl, hfront⟩ := cut_singleton_eq_some_iff.1 hcut
        obtain ⟨digits, hback, hnumber⟩ := Decimal.toUInt64?_eq_some_iff.1 hcount
        obtain ⟨hne, hdigits, hvalue⟩ := Decimal.toNat?_eq_some_iff.1 hnumber
        exact .intro hfront hback hne hdigits hvalue
      · cases h
  · rintro ⟨hfront, hback, hne, hdigits, hvalue⟩
    have hnumber := Decimal.toNat?_eq_some_iff.2 ⟨hne, hdigits, hvalue⟩
    have hcount := Decimal.toUInt64?_eq_some_iff.2 ⟨_, hback, hnumber⟩
    simp only [cut_singleton_eq_some_iff.2 ⟨rfl, hfront⟩, hcount]

/-- A piece that cannot be read is named as it stands. -/
theorem readPiece_eq_error {e : QualityError} (h : readPiece piece = .error e) :
    e = .malformed (String.ofList piece) := by
  rw [readPiece] at h
  split at h
  · cases h
    rfl
  · split at h
    · cases h
    · cases h
      rfl

/-- A piece states one number for one tag. -/
theorem rightUnique_states : Relator.RightUnique States := by
  intro piece entry other h hother
  rw [← readPiece_eq_ok_iff] at h hother
  exact Except.ok.inj (h.symm.trans hother)

theorem addPiece_of_states (h : States piece entry) (requirements : QualityRequirements) :
    requirements.addPiece piece = requirements.add entry.1 entry.2 := by
  rw [addPiece, readPiece_eq_ok_iff.2 h]

theorem addPiece_of_not_states (h : ∀ entry, ¬States piece entry)
    (requirements : QualityRequirements) :
    requirements.addPiece piece = .error (.malformed (String.ofList piece)) := by
  cases hread : readPiece piece with
  | ok entry => exact absurd (readPiece_eq_ok_iff.1 hread) (h entry)
  | error e => rw [addPiece, hread, readPiece_eq_error hread]

/-! ## Totals -/

/-- The tag under which a number is kept: the case of its letters is left out. -/
def keyOf (tag : String) : String :=
  String.ofList (lowercase tag.toList)

/-- The exact sum of the numbers for a tag. -/
def total (entries : List (String × UInt64)) (tag : String) : Nat :=
  (entries.map fun entry => if keyOf entry.1 = tag then entry.2.toNat else 0).sum

/-- All totals are 64-bit numbers. -/
def Fits (entries : List (String × UInt64)) : Prop :=
  ∀ tag, total entries tag < UInt64.size

@[simp] theorem total_nil (tag : String) : total [] tag = 0 := rfl

@[simp] theorem total_append (entries others : List (String × UInt64)) (tag : String) :
    total (entries ++ others) tag = total entries tag + total others tag := by
  simp [total]

theorem total_singleton (entry : String × UInt64) (tag : String) :
    total [entry] tag = if keyOf entry.1 = tag then entry.2.toNat else 0 := by
  simp [total]

theorem fits_nil : Fits [] := by
  intro tag
  rw [total_nil]
  decide

theorem Fits.of_append (h : Fits (entries ++ others)) : Fits entries := by
  intro tag
  have hsum := h tag
  rw [total_append] at hsum
  omega

/-- With one more number, the totals fit exactly if the total of its tag does. -/
theorem fits_concat_iff (h : Fits entries) : Fits (entries ++ [entry]) ↔
    total entries (keyOf entry.1) + entry.2.toNat < UInt64.size := by
  constructor
  · intro hfits
    simpa [total_singleton] using hfits (keyOf entry.1)
  · intro hsum tag
    rw [total_append, total_singleton]
    split
    · next htag => rwa [htag] at hsum
    · exact h tag

/-- Totals do not depend on the order of the numbers, nor on the case of the tags. -/
theorem total_eq_of_perm (h : (entries.map fun entry => (keyOf entry.1, entry.2)).Perm
    (others.map fun entry => (keyOf entry.1, entry.2))) (tag : String) :
    total entries tag = total others tag := by
  have hsum := (h.map fun entry => if entry.1 = tag then entry.2.toNat else 0).sum_nat
  simpa [total, List.map_map, Function.comp_def] using hsum

theorem fits_congr (h : ∀ tag, total entries tag = total others tag) : Fits entries ↔ Fits others :=
  forall_congr' fun tag => by rw [h]

/-! ## Requirements that are totals -/

/-- Requirements that give every tag its exact total, and that name no tag without one. -/
structure IsSum (requirements : QualityRequirements) (entries : List (String × UInt64)) : Prop where
  ascending : requirements.counts.Pairwise fun a b => a.1 < b.1
  ne_zero : ∀ entry ∈ requirements.counts, entry.2 ≠ 0
  toNat_wanted : ∀ tag, (requirements.wanted tag).toNat = total entries tag

theorem isSum_congr (h : ∀ tag, total entries tag = total others tag) :
    requirements.IsSum entries ↔ requirements.IsSum others :=
  ⟨fun hsum => { hsum with toNat_wanted := fun tag => (hsum.toNat_wanted tag).trans (h tag) },
    fun hsum => { hsum with toNat_wanted := fun tag => (hsum.toNat_wanted tag).trans (h tag).symm }⟩

theorem isSum_none : none.IsSum [] where
  ascending := .nil
  ne_zero := by simp [none]
  toNat_wanted _ := rfl

/-- The entries of requirements are the totals that are not zero. -/
theorem IsSum.mem_iff (h : requirements.IsSum entries) :
    (tag, count) ∈ requirements.counts ↔ count ≠ 0 ∧ count.toNat = total entries tag := by
  have hfound : requirements.counts.lookup tag = some count ↔ (tag, count) ∈ requirements.counts :=
    Ascending.lookup_eq_some_iff (Ascending.nodup_keys h.ascending)
  rw [← h.toNat_wanted, UInt64.toNat_inj, wanted]
  constructor
  · intro hmem
    exact ⟨h.ne_zero _ hmem, by rw [hfound.2 hmem, Option.getD_some]⟩
  · rintro ⟨hne, hcount⟩
    cases hlookup : requirements.counts.lookup tag with
    | none => exact absurd (by simpa [hlookup] using hcount) hne
    | some present => exact hfound.1 (by simpa [hlookup] using hcount.symm)

/-- Requirements are determined by the totals. -/
theorem IsSum.eq (h : requirements.IsSum entries) (hmore : more.IsSum others)
    (htotals : ∀ tag, total entries tag = total others tag) : requirements = more := by
  have hcounts : requirements.counts = more.counts := by
    apply Ascending.eq_of_mem_iff h.ascending hmore.ascending
    rintro ⟨tag, count⟩
    rw [h.mem_iff, hmore.mem_iff, htotals]
  cases requirements
  cases more
  exact congrArg QualityRequirements.mk hcounts

/-- What is added comes to the number that is wanted already, if the sum is a 64-bit number. -/
theorem IsSum.add_eq (h : requirements.IsSum entries) (hcount : count ≠ 0) :
    requirements.add tag count =
      if total entries (keyOf tag) + count.toNat < UInt64.size then
        .ok ⟨Ascending.put Prod.fst (keyOf tag, requirements.wanted (keyOf tag) + count)
          requirements.counts⟩
      else .error (.overflow (keyOf tag)) := by
  have hadded := addCount?_eq h.ascending (keyOf tag) count
  have hkey : String.ofList (lowercase tag.toList) = keyOf tag := rfl
  rw [← wanted, h.toNat_wanted] at hadded
  simp only [add, if_neg hcount, hkey, hadded]
  by_cases hsum : total entries (keyOf tag) + count.toNat < UInt64.size
  · simp only [if_pos hsum]
  · simp only [if_neg hsum]

/-- One more number is added to the total of its tag, if the sum is a 64-bit number. -/
theorem IsSum.exists_add (h : requirements.IsSum entries)
    (hsum : total entries (keyOf entry.1) + entry.2.toNat < UInt64.size) :
    ∃ more, requirements.add entry.1 entry.2 = .ok more ∧ more.IsSum (entries ++ [entry]) := by
  by_cases hzero : entry.2 = 0
  · -- A zero is not listed, and its tag may not be either.
    refine ⟨requirements, by rw [add, if_pos hzero], { h with toNat_wanted := ?_ }⟩
    intro tag
    rw [h.toNat_wanted, total_append, total_singleton, hzero]
    simp
  · have hadded : (requirements.wanted (keyOf entry.1) + entry.2).toNat =
        total entries (keyOf entry.1) + entry.2.toNat := by
      rw [UInt64.toNat_add, h.toNat_wanted, Nat.mod_eq_of_lt hsum]
    refine ⟨_, by rw [h.add_eq hzero, if_pos hsum], Ascending.pairwise_put _ h.ascending, ?_, ?_⟩
    · intro other hother
      rcases (Ascending.mem_put_iff h.ascending).1 hother with rfl | ⟨hold, -⟩
      · intro hnone
        have hsumZero : (requirements.wanted (keyOf entry.1) + entry.2).toNat = 0 :=
          congrArg UInt64.toNat hnone
        have hpos : entry.2.toNat ≠ 0 := fun hnat => hzero (UInt64.toNat_inj.1 hnat)
        omega
      · exact h.ne_zero other hold
    · intro tag
      rw [wanted, Ascending.lookup_put h.ascending, total_append, total_singleton]
      by_cases htag : tag = keyOf entry.1
      · rw [if_pos htag, if_pos htag.symm, Option.getD_some, hadded, htag]
      · rw [if_neg htag, if_neg (Ne.symm htag), ← wanted, h.toNat_wanted, Nat.add_zero]

/-- One more number ends the reading if the total of its tag is too large for it. -/
theorem IsSum.add_eq_overflow (h : requirements.IsSum entries)
    (hsum : UInt64.size ≤ total entries (keyOf entry.1) + entry.2.toNat) :
    requirements.add entry.1 entry.2 = .error (.overflow (keyOf entry.1)) := by
  have hzero : entry.2 ≠ 0 := by
    intro hzero
    -- What is wanted already is a 64-bit number.
    have hfits := (requirements.wanted (keyOf entry.1)).toNat_lt
    rw [h.toNat_wanted] at hfits
    simp only [hzero, UInt64.toNat_zero, UInt64.size] at hsum
    omega
  rw [h.add_eq hzero, if_neg (by omega)]

/-! ## Reading -/

/-- What comes of reading pieces: the totals of the numbers that they state, or the fault of the
first piece at which reading ends. Up to there, the pieces state numbers whose totals fit. -/
inductive Outcome : List (List Char) → Except QualityError QualityRequirements → Prop where
  /-- All pieces state a number, and every total fits. -/
  | sum {pieces : List (List Char)} {entries : List (String × UInt64)}
      {requirements : QualityRequirements} (hpieces : List.Forall₂ States pieces entries)
      (hfits : Fits entries) (hsum : requirements.IsSum entries) : Outcome pieces (.ok requirements)
  /-- A piece states no number. -/
  | malformed {before after : List (List Char)} {piece : List Char}
      {entries : List (String × UInt64)} (hbefore : List.Forall₂ States before entries)
      (hfits : Fits entries) (hpiece : ∀ entry, ¬States piece entry) :
      Outcome (before ++ piece :: after) (.error (.malformed (String.ofList piece)))
  /-- A piece states a number that is too large for what is wanted already. Reading ends without a
  report on the piece. -/
  | overflow {before after : List (List Char)} {piece : List Char}
      {entries : List (String × UInt64)} {entry : String × UInt64}
      (hbefore : List.Forall₂ States before entries) (hfits : Fits entries)
      (hpiece : States piece entry)
      (hsum : UInt64.size ≤ total entries (keyOf entry.1) + entry.2.toNat) :
      Outcome (before ++ piece :: after) (.error (.overflow (keyOf entry.1)))

/-- Pieces whose totals fit are read as these totals, together with what was read before. -/
theorem exists_foldlM_addPiece {before : List (String × UInt64)} (h : requirements.IsSum before)
    (hpieces : List.Forall₂ States pieces entries) (hfits : Fits (before ++ entries)) :
    ∃ result, pieces.foldlM addPiece requirements = .ok result ∧
      result.IsSum (before ++ entries) := by
  induction hpieces generalizing requirements before with
  | nil => exact ⟨requirements, rfl, by rwa [List.append_nil]⟩
  | @cons piece entry pieces entries hpiece hpieces ih =>
    -- The number of the first piece goes to those read before.
    rw [List.append_cons] at hfits ⊢
    have hsum := (fits_concat_iff hfits.of_append.of_append).1 hfits.of_append
    obtain ⟨more, hadd, hmore⟩ := h.exists_add hsum
    obtain ⟨result, hrest, hresult⟩ := ih hmore hfits
    refine ⟨result, ?_, hresult⟩
    rw [List.foldlM_cons, addPiece_of_states hpiece, hadd]
    exact hrest

/-- Reading ends at a piece that cannot be added to what the pieces before it state. -/
theorem foldlM_addPiece_of_error {before after : List (List Char)} {e : QualityError}
    (hbefore : List.Forall₂ States before entries) (hfits : Fits entries)
    (hend : ∀ requirements : QualityRequirements, requirements.IsSum entries →
      requirements.addPiece piece = .error e) :
    (before ++ piece :: after).foldlM addPiece none = .error e := by
  obtain ⟨requirements, hread, hsum⟩ := exists_foldlM_addPiece isSum_none hbefore hfits
  exact foldlM_eq_error_iff.2
    ⟨before, piece, after, requirements, rfl, hread, hend requirements hsum⟩

/-- What comes of pieces is what they are read as. -/
theorem Outcome.foldlM_addPiece {result : Except QualityError QualityRequirements}
    (h : Outcome pieces result) : pieces.foldlM addPiece none = result := by
  cases h with
  | sum hpieces hfits hsum =>
    obtain ⟨read, hread, hreadSum⟩ := exists_foldlM_addPiece isSum_none hpieces hfits
    rw [hread, hreadSum.eq hsum fun _ => rfl]
  | malformed hbefore hfits hpiece =>
    exact foldlM_addPiece_of_error hbefore hfits fun _ _ => addPiece_of_not_states hpiece _
  | overflow hbefore hfits hpiece hsum =>
    refine foldlM_addPiece_of_error hbefore hfits fun requirements hread => ?_
    rw [addPiece_of_states hpiece, hread.add_eq_overflow hsum]

/-- Something comes of all pieces. -/
theorem exists_outcome (pieces : List (List Char)) : ∃ result, Outcome pieces result := by
  induction pieces using List.reverseRecOn with
  | nil => exact ⟨_, .sum .nil fits_nil isSum_none⟩
  | append_singleton pieces piece ih =>
    obtain ⟨result, houtcome⟩ := ih
    cases houtcome with
    | malformed hbefore hfits hpiece =>
      exact ⟨_, by rw [List.append_assoc]; exact .malformed hbefore hfits hpiece⟩
    | overflow hbefore hfits hpiece hsum =>
      exact ⟨_, by rw [List.append_assoc]; exact .overflow hbefore hfits hpiece hsum⟩
    | @sum _ entries _ hpieces hfits hsum =>
      -- Up to the last piece all is well, so this piece decides.
      by_cases hpiece : ∃ entry, States piece entry
      · obtain ⟨entry, hentry⟩ := hpiece
        by_cases hlast : total entries (keyOf entry.1) + entry.2.toNat < UInt64.size
        · obtain ⟨more, -, hmore⟩ := hsum.exists_add hlast
          have hall := List.rel_append hpieces (.cons hentry .nil)
          exact ⟨_, .sum hall ((fits_concat_iff hfits).2 hlast) hmore⟩
        · exact ⟨_, .overflow hpieces hfits hentry (Nat.le_of_not_lt hlast)⟩
      · exact ⟨_, .malformed hpieces hfits (not_exists.1 hpiece)⟩

/-- Pieces are read as what comes of them. -/
theorem parse_eq_iff {text : String} {result : Except QualityError QualityRequirements} :
    parse text = result ↔ Outcome (QualityRequirements.pieces text.toList) result := by
  constructor
  · rintro rfl
    obtain ⟨result, houtcome⟩ := exists_outcome (QualityRequirements.pieces text.toList)
    rw [parse, houtcome.foldlM_addPiece]
    exact houtcome
  · exact Outcome.foldlM_addPiece

/-- A text whose pieces all state numbers is read as their totals, if these fit. -/
theorem parse_eq_ok_iff {text : String}
    (h : List.Forall₂ States (QualityRequirements.pieces text.toList) entries) :
    parse text = .ok requirements ↔ Fits entries ∧ requirements.IsSum entries := by
  rw [parse_eq_iff]
  generalize QualityRequirements.pieces text.toList = pieces at h ⊢
  constructor
  · rintro ⟨hpieces, hfits, hsum⟩
    have heq := List.right_unique_forall₂' rightUnique_states hpieces h
    exact ⟨heq ▸ hfits, heq ▸ hsum⟩
  · rintro ⟨hfits, hsum⟩
    exact .sum h hfits hsum

end QualityRequirements

open QualityRequirements in
/-- A text of requirements is read as the exact totals of the numbers that its pieces state. Reading
ends at the first piece that states none, or that states too large a number for the total of its
tag. What is read does not depend on the order of the pieces, nor on the case of their tags. -/
theorem quality_totals (text : String) :
    (∀ result, parse text = result ↔ Outcome (pieces text.toList) result) ∧
    ∀ (other : String) (entries others : List (String × UInt64)),
      List.Forall₂ States (pieces text.toList) entries →
      List.Forall₂ States (pieces other.toList) others →
      (entries.map fun entry => (keyOf entry.1, entry.2)).Perm
        (others.map fun entry => (keyOf entry.1, entry.2)) →
      ∀ requirements, parse text = .ok requirements ↔ parse other = .ok requirements := by
  refine ⟨fun result => parse_eq_iff, ?_⟩
  intro other entries others hentries hothers hperm requirements
  have htotals := total_eq_of_perm hperm
  rw [parse_eq_ok_iff hentries, parse_eq_ok_iff hothers, fits_congr htotals, isSum_congr htotals]

open QualityRequirements in
/-- Two disks and a third one, in other letters and in another order. -/
theorem quality_totals_sample :
    parse "disk=2, tape=1,DISK=1" = .ok ⟨[("disk", 3), ("tape", 1)]⟩ ∧
      parse "tape=+1,,disk=1, Disk = 02" = .ok ⟨[("disk", 3), ("tape", 1)]⟩ := by
  have hstates : ∀ {piece entry}, readPiece piece = .ok entry → States piece entry :=
    readPiece_eq_ok_iff.1
  have hread : parse "disk=2, tape=1,DISK=1" = .ok ⟨[("disk", 3), ("tape", 1)]⟩ := by decide
  refine ⟨hread, ?_⟩
  refine ((quality_totals "disk=2, tape=1,DISK=1").2 "tape=+1,,disk=1, Disk = 02"
    [("disk", 2), ("tape", 1), ("DISK", 1)] [("tape", 1), ("disk", 1), ("Disk", 2)]
    ?_ ?_ ?_ _).1 hread
  · exact .cons (hstates (by decide)) <| .cons (hstates (by decide)) <|
      .cons (hstates (by decide)) .nil
  · exact .cons (hstates (by decide)) <| .cons (hstates (by decide)) <|
      .cons (hstates (by decide)) .nil
  · decide

open QualityRequirements in
/-- Reading ends at a total that is too large, and does not come to the piece that states nothing.
-/
theorem full_total_ends_reading :
    pieces "disk=18446744073709551615,disk=1,tape".toList =
        ["disk=18446744073709551615".toList, "disk=1".toList, "tape".toList] ∧
      States "disk=18446744073709551615".toList ("disk", 18446744073709551615) ∧
      States "disk=1".toList ("disk", 1) ∧
      (∀ entry, ¬States "tape".toList entry) ∧
      parse "disk=18446744073709551615,disk=1,tape" = .error (.overflow "disk") ∧
      parse "disk=18446744073709551615,disk=1,tape" ≠ .error (.malformed "tape") := by
  have hnothing : readPiece "tape".toList = .error (.malformed "tape") := by decide
  refine ⟨by decide, readPiece_eq_ok_iff.1 (by decide), readPiece_eq_ok_iff.1 (by decide), ?_,
    by decide, by decide⟩
  intro entry hentry
  rw [← readPiece_eq_ok_iff, hnothing] at hentry
  cases hentry

end GridAccess
