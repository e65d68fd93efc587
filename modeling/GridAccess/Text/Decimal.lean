/-!
# Decimal text

Natural numbers in decimal digits.

## Main definitions

- `Decimal.digits` — the digits of a number
- `Decimal.padded` — the digits with zeros in front, up to a width
- `Decimal.toNat?` — the number denoted by a non-empty run of digits
- `Decimal.toUInt64?` — a number below 2⁶⁴, with an optional plus sign

## Main statements

- `Decimal.toNat?_digits`, `Decimal.toNat?_padded` — digits are read back
- `Decimal.length_padded` — a number that fits has as many places as it is given
- `Decimal.toNat?_eq_some_iff`, `Decimal.toUInt64?_eq_some_iff` — which texts denote a number
-/

namespace GridAccess.Text.Decimal

def digits (n : Nat) : List Char :=
  Nat.toDigits 10 n

/-- The decimal digits of a number, with zeros in front up to `width` places. -/
def padded (width n : Nat) : List Char :=
  List.replicate (width - (digits n).length) '0' ++ digits n

/-- The number denoted by a non-empty run of digits. -/
def toNat? (text : List Char) : Option Nat :=
  if text ≠ [] ∧ text.all Char.isDigit then some (Nat.ofDigitChars 10 text 0) else none

/-- The number below 2⁶⁴ denoted by a non-empty run of digits after an optional plus sign. -/
def toUInt64? (text : List Char) : Option UInt64 := do
  let unsigned :=
    match text with
    | '+' :: rest => rest
    | _ => text
  let n ← toNat? unsigned
  if n < UInt64.size then some (UInt64.ofNat n) else none

theorem all_isDigit_digits (n : Nat) : (digits n).all Char.isDigit = true := by
  rw [List.all_eq_true]
  intro c hc
  exact Nat.isDigit_of_mem_toDigits (by decide) (by decide) hc

/-- The digits of a number are read back as that number. -/
theorem toNat?_digits (n : Nat) : toNat? (digits n) = some n := by
  have hne : digits n ≠ [] := Nat.toDigits_ne_nil
  rw [toNat?, if_pos ⟨hne, all_isDigit_digits n⟩, digits, Nat.ofDigitChars_ten_toDigits]

/-- Zeros in front of the digits do not change the number. -/
theorem toNat?_padded (width n : Nat) : toNat? (padded width n) = some n := by
  have hne : padded width n ≠ [] := by
    have : digits n ≠ [] := Nat.toDigits_ne_nil
    simp [padded, this]
  have hall : (padded width n).all Char.isDigit = true := by
    rw [padded, List.all_append, all_isDigit_digits, Bool.and_true, List.all_eq_true]
    intro c hc
    rw [List.eq_of_mem_replicate hc]
    rfl
  rw [toNat?, if_pos ⟨hne, hall⟩, padded, Nat.ofDigitChars_append,
    Nat.ofDigitChars_replicate_zero, Nat.mul_zero, digits, Nat.ofDigitChars_ten_toDigits]

/-- A number that fits is written in exactly the places it is given. -/
theorem length_padded {width n : Nat} (hwidth : width ≠ 0) (h : n < Nat.pow 10 width) :
    (padded width n).length = width := by
  have hlength : (digits n).length ≤ width :=
    (Nat.length_toDigits_le_iff (by decide) (Nat.pos_of_ne_zero hwidth)).2 h
  rw [padded, List.length_append, List.length_replicate]
  omega

theorem toNat?_eq_some_iff {text : List Char} {n : Nat} : toNat? text = some n ↔
    text ≠ [] ∧ (∀ c ∈ text, c.isDigit = true) ∧ Nat.ofDigitChars 10 text 0 = n := by
  rw [toNat?, Option.ite_none_right_eq_some, List.all_eq_true, Option.some.injEq, and_assoc]

/-- A number below 2⁶⁴ is denoted by digits, and by digits behind a plus sign. -/
theorem toUInt64?_eq_some_iff {text : List Char} {n : UInt64} : toUInt64? text = some n ↔
    ∃ digits, (text = digits ∨ text = '+' :: digits) ∧ toNat? digits = some n.toNat := by
  have hsmall : ∀ unsigned, ((toNat? unsigned).bind fun m =>
      if m < UInt64.size then some (UInt64.ofNat m) else none) = some n ↔
        toNat? unsigned = some n.toNat := by
    intro unsigned
    rw [Option.bind_eq_some_iff]
    constructor
    · rintro ⟨m, hm, hn⟩
      rw [Option.ite_none_right_eq_some, Option.some.injEq] at hn
      rw [hm, ← hn.2, UInt64.toNat_ofNat_of_lt' hn.1]
    · intro hn
      exact ⟨_, hn, by rw [if_pos n.toNat_lt, UInt64.ofNat_toNat]⟩
  unfold toUInt64?
  split
  next rest =>
    refine (hsmall rest).trans ⟨fun h => ⟨rest, Or.inr rfl, h⟩, ?_⟩
    rintro ⟨digits, rfl | hdigits, h⟩
    · -- A plus sign is no digit.
      have hplus := (toNat?_eq_some_iff.1 h).2.1 '+' (by simp)
      cases hplus
    · cases hdigits
      exact h
  next hplus =>
    refine (hsmall text).trans ⟨fun h => ⟨text, Or.inl rfl, h⟩, ?_⟩
    rintro ⟨digits, rfl | hdigits, h⟩
    · exact h
    · exact absurd hdigits (hplus digits)

/-- The digits of a 64-bit number are read back as that number. -/
theorem toUInt64?_digits (n : UInt64) : toUInt64? (digits n.toNat) = some n :=
  toUInt64?_eq_some_iff.2 ⟨_, Or.inl rfl, toNat?_digits n.toNat⟩

end GridAccess.Text.Decimal
