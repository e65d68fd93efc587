import GridAccess.Identity.Guid
import GridAccess.Proofs.Text.Occurrence

/-!
# Texts and directories of identifiers

The text of an identifier has five groups of lower-case digits, and the identifier is read back from
it. The directory of an identifier ends with this text. In front stand two numbers of fixed width,
both of them remainders of one number that is folded from the halves of the identifier.

## Main definitions

- `Guid.IsHyphenated` — texts of five groups of lower-case digits
- `Guid.foldedHalves` — the two halves of an identifier, folded into a number below 2³²
- `Guid.IsNumber` — texts of a number in exactly so many decimal digits

## Main statements

- `Guid.isHyphenated_chars` — the text of an identifier is of this kind
- `Guid.parse_text` — an identifier is read back from its text
- `Guid.toNat_fold` — what the words of an identifier fold into
- `Guid.exists_directory_eq` — the two numbers and the text of a directory
- `Guid.directory_injective` — a directory is that of one identifier
-/

namespace GridAccess.Guid

open Text

variable {a b c d e digits : List Char}

/-! ## Groups of digits -/

/-- The digits in which identifiers are written. -/
def lowerDigits : List Char := "0123456789abcdef".toList

/-- A text of five groups of lower-case digits with hyphens between them. -/
def IsHyphenated (text : List Char) : Prop :=
  ∃ groups : List (List Char), groups.map List.length = [8, 4, 4, 4, 12] ∧
    (∀ group ∈ groups, ∀ c ∈ group, c ∈ lowerDigits) ∧ text = ['-'].intercalate groups

/-- Grouping puts four hyphens between the digits. -/
theorem exists_groups (h : digits.length = 32) :
    ∃ a b c d e : List Char, [a, b, c, d, e].map List.length = [8, 4, 4, 4, 12] ∧
      digits = a ++ b ++ c ++ d ++ e ∧ group digits = ['-'].intercalate [a, b, c, d, e] := by
  refine ⟨digits.take 8, (digits.drop 8).take 4, (digits.drop 12).take 4, (digits.drop 16).take 4,
    digits.drop 20, ?_, ?_, ?_⟩
  · simp [h]
  · rw [← List.take_add, ← List.take_add, ← List.take_add, List.take_append_drop]
  · simp [group]

/-- The digits of five groups are found between the hyphens. -/
theorem ungroup?_intercalate (h : [a, b, c, d, e].map List.length = [8, 4, 4, 4, 12]) :
    ungroup? (['-'].intercalate [a, b, c, d, e]) = some (a ++ b ++ c ++ d ++ e) := by
  simp only [List.map_cons, List.map_nil, List.cons.injEq, and_true] at h
  obtain ⟨ha, hb, hc, hd, he⟩ := h
  simp (disch := omega) [ungroup?, List.drop_append, List.drop_of_length_le, List.getElem?_append,
    List.getElem?_cons, ha, hb, hc, hd, he]

theorem ungroup?_group (h : digits.length = 32) : ungroup? (group digits) = some digits := by
  obtain ⟨a, b, c, d, e, hlengths, hdigits, hgroup⟩ := exists_groups h
  rw [hgroup, ungroup?_intercalate hlengths, hdigits]

/-! ## Texts of identifiers -/

theorem mem_lowerDigits_of_mem_fixed {places n : Nat} {c : Char} (h : c ∈ Hex.fixed places n) :
    c ∈ lowerDigits := by
  have hall : ∀ value : Fin 16, Hex.digit value.val ∈ lowerDigits := by decide
  obtain ⟨value, hvalue, rfl⟩ := Hex.mem_fixed h
  exact hall ⟨value, hvalue⟩

/-- The text of an identifier has five groups of lower-case digits. -/
theorem isHyphenated_chars (guid : Guid) : IsHyphenated guid.chars := by
  obtain ⟨a, b, c, d, e, hlengths, hdigits, hgroup⟩ :=
    exists_groups (Hex.length_fixed 32 guid.bits.toNat)
  refine ⟨[a, b, c, d, e], hlengths, ?_, hgroup⟩
  intro part hpart x hx
  apply mem_lowerDigits_of_mem_fixed
  have hflatten : x ∈ [a, b, c, d, e].flatten := List.mem_flatten_of_mem hpart hx
  rw [hdigits]
  simpa using hflatten

theorem length_chars (guid : Guid) : guid.chars.length = 36 :=
  length_group (Hex.length_fixed 32 guid.bits.toNat)

/-- The text of an identifier is made of digits and hyphens. -/
theorem mem_chars {guid : Guid} {c : Char} (h : c ∈ guid.chars) : c ∈ '-' :: lowerDigits := by
  obtain ⟨a, b, c, d, e, -, hdigits, hgroup⟩ :=
    exists_groups (Hex.length_fixed 32 guid.bits.toNat)
  rw [List.mem_cons, or_iff_not_imp_left]
  intro hhyphen
  apply mem_lowerDigits_of_mem_fixed
  rw [hdigits]
  rw [chars, hgroup] at h
  simpa [hhyphen] using h

/-- No character of the text of an identifier is white space or means anything in a location. -/
theorem plain_of_mem_chars {guid : Guid} {c : Char} (h : c ∈ guid.chars) :
    isBlank c = false ∧ c ≠ '/' ∧ c ≠ '#' := by
  have hall : ('-' :: lowerDigits).all (fun c => !isBlank c && c != '/' && c != '#') = true := by
    decide
  have hplain := List.all_eq_true.1 hall c (mem_chars h)
  simpa [and_assoc] using hplain

/-- The text of an identifier has no white space to lose. -/
theorem isTrimmed_chars (guid : Guid) : IsTrimmed guid.chars :=
  ⟨fun _ hc => (plain_of_mem_chars (List.mem_of_mem_head? hc)).1,
    fun _ hc => (plain_of_mem_chars (List.mem_of_getLast? hc)).1⟩

/-- An identifier is read back from its digits. -/
theorem ofDigits?_fixed (guid : Guid) : ofDigits? (Hex.fixed 32 guid.bits.toNat) = some guid := by
  have hread : Hex.toNat? (Hex.fixed 32 guid.bits.toNat) = some guid.bits.toNat :=
    Hex.toNat?_fixed guid.bits.isLt
  rw [ofDigits?, if_pos (Hex.length_fixed 32 _), hread, Option.map_some, BitVec.ofNat_toNat,
    BitVec.setWidth_eq]

/-- An identifier is read back from its text. -/
theorem parse_text (guid : Guid) : parse guid.text = .ok guid := by
  have hdigits : digitsOf? guid.chars = some (Hex.fixed 32 guid.bits.toNat) := by
    rw [digitsOf?, if_neg (by rw [length_chars]; decide), if_pos guid.length_chars]
    exact ungroup?_group (Hex.length_fixed 32 _)
  rw [parse, text, String.toList_ofList, trim_eq_self guid.isTrimmed_chars, hdigits]
  simp only [Option.bind_some, ofDigits?_fixed]

theorem chars_injective {guid other : Guid} (h : guid.chars = other.chars) : guid = other := by
  have hread := guid.parse_text
  rw [text, h, ← text, other.parse_text] at hread
  exact (Except.ok.inj hread).symm

/-! ## Directories -/

/-- The two halves of an identifier folded into a number below 2³²: what the exclusive or of the
halves has in its own two halves, combined in the same way. -/
def foldedHalves (guid : Guid) : Nat :=
  let halves := guid.bits.toNat / UInt64.size ^^^ guid.bits.toNat % UInt64.size
  halves / UInt32.size ^^^ halves % UInt32.size

/-- The words of an identifier fold into the same number as its halves. -/
theorem toNat_fold (guid : Guid) : guid.fold.toNat = guid.foldedHalves := by
  have hhigh : guid.bits.toNat / UInt64.size < UInt64.size :=
    Nat.div_lt_of_lt_mul guid.bits.isLt
  have hhalves : guid.bits.toNat / UInt64.size ^^^ guid.bits.toNat % UInt64.size < UInt64.size :=
    Nat.xor_lt_two_pow (n := 64) hhigh (Nat.mod_lt _ (by decide))
  simp only [UInt64.size] at hhigh hhalves
  simp only [fold, foldedHalves, UInt64.size, UInt32.size, BitVec.toNat_xor,
    BitVec.extractLsb'_toNat, Nat.shiftRight_eq_div_pow, Nat.pow_zero, Nat.div_one, Nat.reducePow]
  rw [Nat.mod_eq_of_lt hhigh, Nat.mod_eq_of_lt (by omega)]

theorem foldedHalves_lt (guid : Guid) : guid.foldedHalves < UInt32.size :=
  guid.toNat_fold ▸ guid.fold.isLt

/-- A number in exactly so many decimal digits. -/
structure IsNumber (width n : Nat) (text : List Char) : Prop where
  length : text.length = width
  isDigit : ∀ c ∈ text, c.isDigit = true
  value : Nat.ofDigitChars 10 text 0 = n

theorem isNumber_padded {width n : Nat} (hwidth : width ≠ 0) (h : n < Nat.pow 10 width) :
    IsNumber width n (Decimal.padded width n) := by
  obtain ⟨-, hdigits, hvalue⟩ := Decimal.toNat?_eq_some_iff.1 (Decimal.toNat?_padded width n)
  exact ⟨Decimal.length_padded hwidth h, hdigits, hvalue⟩

/-- A directory has two numbers in front of the text of the identifier. -/
theorem exists_directory_eq (guid : Guid) :
    ∃ level folder, guid.directory = level ++ '/' :: folder ++ '/' :: guid.chars ∧
      IsNumber 2 (guid.foldedHalves % 16) level ∧
      IsNumber 5 (guid.foldedHalves % 100000) folder := by
  refine ⟨_, _, rfl, ?_, ?_⟩
  · rw [toNat_fold]
    exact isNumber_padded (by decide) (Nat.lt_trans (Nat.mod_lt _ (by decide)) (by decide))
  · rw [toNat_fold]
    exact isNumber_padded (by decide) (Nat.mod_lt _ (by decide))

/-- A directory ends with the text of the identifier, which has the same length for all of them. -/
theorem directory_injective {guid other : Guid} (h : guid.directory = other.directory) :
    guid = other := by
  obtain ⟨level, folder, hguid, -⟩ := guid.exists_directory_eq
  obtain ⟨otherLevel, otherFolder, hother, -⟩ := other.exists_directory_eq
  rw [hguid, hother, List.append_cons _ _ guid.chars, List.append_cons _ _ other.chars] at h
  have hlength : guid.chars.length = other.chars.length := by rw [length_chars, length_chars]
  exact chars_injective (List.append_inj_right' h hlength)

/-- A directory is part of the path of a location: it holds no hash sign. -/
theorem hash_not_mem_directory (guid : Guid) : '#' ∉ guid.directory := by
  obtain ⟨level, folder, hdirectory, hlevel, hfolder⟩ := guid.exists_directory_eq
  have hlevelMem : '#' ∉ level := fun hmem => absurd (hlevel.isDigit _ hmem) (by decide)
  have hfolderMem : '#' ∉ folder := fun hmem => absurd (hfolder.isDigit _ hmem) (by decide)
  have hchars : '#' ∉ guid.chars := fun hmem => (plain_of_mem_chars hmem).2.2 rfl
  simp [hdirectory, hlevelMem, hfolderMem, hchars]

end GridAccess.Guid
