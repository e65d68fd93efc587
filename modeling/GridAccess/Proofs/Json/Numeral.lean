import GridAccess.Json.Reader
import GridAccess.Json.Writer

/-!
# Reading numbers in JSON

A number ends where its digits end. So it is read back if what follows does not go on with it: with
a digit, a point or an exponent.

## Main definitions

- `IsDigits` — a run of digits
- `Numeral.IsWellFormed` — a number as it may be written
- `Json.Stops` — bytes that do not go on with a number

## Main statements

- `Json.numeral?_writeNumeral` — a number is read back
- `Numeral.isWellFormed_ofNat` — natural numbers are written as they may be
-/

namespace GridAccess

open Text

/-- A run of digits. -/
def IsDigits (digits : List Char) : Prop :=
  digits ≠ [] ∧ digits.all Char.isDigit = true

/-- A number as it may be written: no zero stands in front of other digits. -/
structure Numeral.IsWellFormed (numeral : Numeral) : Prop where
  whole : IsDigits numeral.whole
  leading : ∀ digit rest, numeral.whole ≠ '0' :: digit :: rest
  fraction : ∀ digits ∈ numeral.fraction, IsDigits digits
  exponent : ∀ exponent ∈ numeral.exponent, IsDigits exponent.2

theorem Text.Decimal.isDigits_digits (n : Nat) : IsDigits (digits n) :=
  ⟨Nat.toDigits_ne_nil, all_isDigit_digits n⟩

/-- The digits of a positive number do not start with a zero. -/
theorem Text.Decimal.head?_digits_ne_zero {n : Nat} (h : n ≠ 0) : (digits n).head? ≠ some '0' := by
  induction n using Nat.strongRecOn with
  | ind n ih =>
    by_cases hlt : n < 10
    · have hall : ∀ k : Fin 10, k.val ≠ 0 → Nat.digitChar k ≠ '0' := by decide
      rw [digits, Nat.toDigits_of_lt_base hlt]
      simpa using hall ⟨n, hlt⟩ h
    · have hrest := ih (n / 10) (by omega) (by omega)
      rw [digits, Nat.toDigits_of_base_le (by decide) (by omega), List.head?_append]
      intro heq
      rcases Option.or_eq_some_iff.1 heq with hfirst | ⟨hnone, -⟩
      · exact hrest hfirst
      · exact Nat.toDigits_ne_nil (List.head?_eq_none_iff.1 hnone)

/-- Natural numbers are written as they may be. -/
theorem Numeral.isWellFormed_ofNat (n : Nat) : (Numeral.ofNat n).IsWellFormed where
  whole := Decimal.isDigits_digits n
  leading := by
    intro digit rest heq
    have hdigits : Decimal.digits n = '0' :: digit :: rest := heq
    by_cases hzero : n = 0
    · rw [hzero] at hdigits
      cases hdigits
    · apply Decimal.head?_digits_ne_zero hzero
      rw [hdigits]
      rfl
  fraction := by
    intro digits hdigits
    cases hdigits
  exponent := by
    intro exponent hexponent
    cases hexponent

namespace Json

variable {digits : List Char} {rest : List UInt8}

/-! ## Digits -/

theorem digit_plain {c : Char} (h : c.isDigit = true) :
    isDigit (UInt8.ofNat c.toNat) = true ∧ Char.ofNat (UInt8.ofNat c.toNat).toNat = c := by
  obtain ⟨hlow, hhigh⟩ : 48 ≤ c.toNat ∧ c.toNat ≤ 57 := Char.isDigit_iff_toNat.1 h
  have hbyte : (UInt8.ofNat c.toNat).toNat = c.toNat := by
    rw [UInt8.toNat_ofNat']
    omega
  refine ⟨?_, by rw [hbyte, Char.ofNat_toNat]⟩
  simp only [isDigit, Bool.and_eq_true, decide_eq_true_eq, UInt8.le_iff_toNat_le, hbyte]
  exact ⟨hlow, hhigh⟩

/-- The digits at the start end where a byte is none. -/
theorem takeDigits_ascii (h : digits.all Char.isDigit = true)
    (hrest : ∀ b ∈ rest.head?, isDigit b = false) :
    takeDigits (ascii digits ++ rest) = (digits, rest) := by
  have hnone : rest.takeWhile isDigit = [] ∧ rest.dropWhile isDigit = rest := by
    cases rest with
    | nil => exact ⟨rfl, rfl⟩
    | cons b rest => simp [hrest b rfl]
  induction digits with
  | nil => simp [takeDigits, ascii, hnone]
  | cons c digits ih =>
    rw [List.all_cons, Bool.and_eq_true] at h
    obtain ⟨hdigit, hchar⟩ := digit_plain h.1
    have hmore := ih h.2
    rw [takeDigits, Prod.mk.injEq] at hmore
    rw [takeDigits, ascii, List.map_cons, ← ascii, List.cons_append,
      List.takeWhile_cons_of_pos hdigit, List.dropWhile_cons_of_pos hdigit, List.map_cons, hchar,
      hmore.1, hmore.2]

theorem digits?_ascii (h : IsDigits digits) (hrest : ∀ b ∈ rest.head?, isDigit b = false) :
    digits? (ascii digits ++ rest) = some (digits, rest) := by
  rw [digits?, takeDigits_ascii h.2 hrest]
  split
  · next hnil => exact absurd (Prod.mk.inj hnil).1 h.1
  · rfl

/-! ## Numbers -/

/-- Whether a byte goes on with a number. -/
def continues (b : UInt8) : Bool :=
  isDigit b || b == 0x2E || b == 0x65 || b == 0x45

/-- Bytes that do not go on with a number. -/
def Stops (rest : List UInt8) : Prop :=
  ∀ b ∈ rest.head?, continues b = false

theorem whole?_ascii (h : IsDigits digits) (hleading : ∀ digit rest, digits ≠ '0' :: digit :: rest)
    (hrest : ∀ b ∈ rest.head?, isDigit b = false) :
    whole? (ascii digits ++ rest) = some (digits, rest) := by
  rw [whole?, digits?_ascii h hrest]
  split
  · next digit more after heq =>
    rw [Option.some.injEq, Prod.mk.injEq] at heq
    exact absurd heq.1 (hleading digit more)
  · rfl

theorem Stops.ne {b : UInt8} {more : List UInt8} (h : Stops (b :: more)) :
    isDigit b = false ∧ b ≠ 0x2E ∧ b ≠ 0x65 ∧ b ≠ 0x45 := by
  have hb := h b rfl
  simpa [continues, Bool.or_eq_false_iff, and_assoc] using hb

theorem Stops.isDigit (h : Stops rest) : ∀ b ∈ rest.head?, isDigit b = false := by
  cases rest with
  | nil => simp
  | cons b rest => simpa using h.ne.1

theorem exponent?_writeExponent {exponent : Option (Bool × List Char)}
    (h : ∀ e ∈ exponent, IsDigits e.2) (hrest : Stops rest) :
    exponent? (writeExponent exponent ++ rest) = some (exponent, rest) := by
  cases exponent with
  | none =>
    cases rest with
    | nil => rfl
    | cons b rest =>
      have hno : ¬(b = 0x65 ∨ b = 0x45) := not_or.2 hrest.ne.2.2
      rw [writeExponent, List.nil_append, exponent?.eq_def]
      exact if_neg hno
  | some e =>
    obtain ⟨negative, digits⟩ := e
    have hdigits : digits? (ascii digits ++ rest) = some (digits, rest) :=
      digits?_ascii (h _ rfl) hrest.isDigit
    cases negative with
    | true => simp [writeExponent, exponent?, hdigits]
    | false => simp [writeExponent, exponent?, hdigits]

theorem fraction?_writeFraction {fraction : Option (List Char)} {after : List UInt8}
    (h : ∀ digits ∈ fraction, IsDigits digits)
    (hafter : ∀ b ∈ after.head?, isDigit b = false ∧ b ≠ 0x2E) :
    fraction? (writeFraction fraction ++ after) = some (fraction, after) := by
  cases fraction with
  | none =>
    rw [writeFraction, List.nil_append, fraction?]
    intro rest heq
    rw [heq] at hafter
    exact (hafter _ rfl).2 rfl
  | some digits =>
    have hdigits : digits? (ascii digits ++ after) = some (digits, after) :=
      digits?_ascii (h _ rfl) fun b hb => (hafter b hb).1
    rw [writeFraction, List.cons_append, fraction?, hdigits]
    rfl

/-- What is written behind the digits of a number does not start with a digit or a point. -/
theorem writeExponent_stops (exponent : Option (Bool × List Char)) (hrest : Stops rest) :
    ∀ b ∈ (writeExponent exponent ++ rest).head?, isDigit b = false ∧ b ≠ 0x2E := by
  intro b hb
  cases exponent with
  | none =>
    cases rest with
    | nil => cases hb
    | cons c rest =>
      cases hb
      exact ⟨hrest.ne.1, hrest.ne.2.1⟩
  | some e =>
    cases hb
    decide

theorem writeFraction_stops (fraction : Option (List Char)) {after : List UInt8}
    (hafter : ∀ b ∈ after.head?, isDigit b = false ∧ b ≠ 0x2E) :
    ∀ b ∈ (writeFraction fraction ++ after).head?, isDigit b = false := by
  intro b hb
  cases fraction with
  | none => exact (hafter b hb).1
  | some digits =>
    cases hb
    decide

/-- What is written for a number starts with a minus sign or a digit. -/
theorem exists_writeNumeral_eq {numeral : Numeral} (h : numeral.IsWellFormed) :
    ∃ b more, writeNumeral numeral = b :: more ∧ (b = 0x2D ∨ isDigit b = true) := by
  obtain ⟨c, digits, hwhole⟩ := List.exists_cons_of_ne_nil h.whole.1
  have hdigit : c.isDigit = true := by
    apply List.all_eq_true.1 h.whole.2
    rw [hwhole]
    exact List.mem_cons_self
  rw [writeNumeral, hwhole]
  cases numeral.negative with
  | true => exact ⟨_, _, rfl, Or.inl rfl⟩
  | false => exact ⟨_, _, rfl, Or.inr (digit_plain hdigit).1⟩

/-- A number is read back if what follows does not go on with it. -/
theorem numeral?_writeNumeral {numeral : Numeral} (h : numeral.IsWellFormed) (hrest : Stops rest) :
    numeral? (writeNumeral numeral ++ rest) = some (numeral, rest) := by
  let behind := writeExponent numeral.exponent ++ rest
  have hbehind := writeExponent_stops numeral.exponent hrest
  have hwhole : whole? (ascii numeral.whole ++ (writeFraction numeral.fraction ++ behind)) =
      some (numeral.whole, writeFraction numeral.fraction ++ behind) :=
    whole?_ascii h.whole h.leading (writeFraction_stops numeral.fraction hbehind)
  have hfraction : fraction? (writeFraction numeral.fraction ++ behind) =
      some (numeral.fraction, behind) :=
    fraction?_writeFraction h.fraction hbehind
  have hexponent : exponent? behind = some (numeral.exponent, rest) :=
    exponent?_writeExponent h.exponent hrest
  have htext : writeNumeral numeral ++ rest = (if numeral.negative then [0x2D] else []) ++
      (ascii numeral.whole ++ (writeFraction numeral.fraction ++ behind)) := by
    simp [writeNumeral, behind]
  cases hsign : numeral.negative with
  | true =>
    rw [htext, hsign, if_pos rfl, List.singleton_append, numeral?]
    simp [hwhole, hfraction, hexponent, ← hsign]
  | false =>
    -- There is no minus sign in front, because the first byte is a digit.
    have hunsigned : ∀ more,
        ascii numeral.whole ++ (writeFraction numeral.fraction ++ behind) ≠ 0x2D :: more := by
      intro more heq
      rw [heq] at hwhole
      cases hwhole
    rw [htext, hsign, if_neg Bool.false_ne_true, List.nil_append, numeral?.eq_2 _ hunsigned]
    simp [hwhole, hfraction, hexponent, ← hsign]

end Json

end GridAccess
