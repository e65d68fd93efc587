import GridAccess.Text.Shortest

/-!
# Numerals

A numeral is a number as it is written: a sign, digits, and possibly a fraction and an exponent.
What it denotes depends on what is asked for: a natural number has to be written without fraction
and exponent, a floating-point number may be written in any form.

## Main definitions

- `Numeral` — the parts of a written number
- `Numeral.toNat?` — the natural number written
- `Numeral.toFloat?` — the floating-point number written, if it is not too large
- `Numeral.ofNat`, `Numeral.ofFloat?` — how numbers are written

## Main statements

- `Numeral.toNat?_ofNat` — a natural number is read back
-/

namespace GridAccess

open Text

/-- A number as it is written. An exponent is a sign, `true` for minus, with its digits. -/
structure Numeral where
  negative : Bool
  whole : List Char
  fraction : Option (List Char)
  exponent : Option (Bool × List Char)
  deriving DecidableEq, Repr

namespace Numeral

def ofNat (n : Nat) : Numeral :=
  ⟨false, Decimal.digits n, none, none⟩

/-- The natural number written by a numeral without sign, fraction and exponent. -/
def toNat? (numeral : Numeral) : Option Nat :=
  if numeral.negative || numeral.fraction.isSome || numeral.exponent.isSome then none
  else Decimal.toNat? numeral.whole

/-! ## Floating-point numbers

The digits are gathered into a significand of 64 bits as long as they fit. Further digits of the
whole part count as powers of ten, further digits of the fraction are dropped. The significand is
then multiplied or divided by one power of ten. -/

def digitValue (c : Char) : Nat :=
  c.toNat - 0x30

/-- Gather digits of the whole part, and count those left over. -/
def gatherWhole (significand : Nat) : List Char → Nat × Nat
  | [] => (significand, 0)
  | c :: rest =>
    let next := 10 * significand + digitValue c
    if next < UInt64.size then gatherWhole next rest else (significand, rest.length + 1)

/-- Gather digits of the fraction, and count those gathered. -/
def gatherFraction (significand count : Nat) : List Char → Nat × Nat
  | [] => (significand, count)
  | c :: rest =>
    let next := 10 * significand + digitValue c
    if next < UInt64.size then gatherFraction next (count + 1) rest else (significand, count)

/-- A power of ten from 0 to 308. -/
def powerOfTen (n : Nat) : Float :=
  Float.ofScientific 1 false n

/-- Divide by 10 ^ 308 as long as the negative exponent is beyond that. -/
def divideDown : Nat → Float → Nat → Float
  | 0, value, _ => value
  | steps + 1, value, n =>
    if n ≤ 308 then value / powerOfTen n
    else if value == 0 then value
    else divideDown steps (value / powerOfTen 308) (n - 308)

/-- A significand times a power of ten, unless it is too large. -/
def scale? (significand : Nat) (exponent : Int) : Option Float :=
  let value := (UInt64.ofNat significand).toFloat
  if exponent < 0 then some (divideDown ((-exponent).toNat + 1) value (-exponent).toNat)
  else if exponent ≤ 308 then
    let product := value * powerOfTen exponent.toNat
    if product.isInf then none else some product
  else if significand = 0 then some value
  else none

/-- The magnitude written by a numeral. Digits of an exponent beyond 32 bits make the number zero or
too large. -/
def magnitude? (numeral : Numeral) : Option Float :=
  let (gathered, extra) := gatherWhole 0 numeral.whole
  let (significand, places) := gatherFraction gathered 0 (numeral.fraction.getD [])
  let start : Int := extra - places
  match numeral.exponent with
  | none => scale? significand start
  | some (negative, digits) =>
    let n := Nat.ofDigitChars 10 digits 0
    if n < UInt32.size / 2 then scale? significand (if negative then start - n else start + n)
    else if significand = 0 || negative then some 0
    else none

def toFloat? (numeral : Numeral) : Option Float :=
  numeral.magnitude?.map fun value => if numeral.negative then -value else value

/-- How the shortest digits of a number are laid out, given the power of ten they are multiplied
by: with the point among or next to the digits if at most sixteen digits stand before it and at
most four zeros after it, else with one digit before the point and an exponent. -/
def layout (negative : Bool) (digits : List Char) (power : Int) : Numeral :=
  let point : Int := digits.length + power
  if 0 ≤ power ∧ point ≤ 16 then
    ⟨negative, digits ++ List.replicate power.toNat '0', some ['0'], none⟩
  else if 0 < point ∧ point ≤ 16 then
    ⟨negative, digits.take point.toNat, some (digits.drop point.toNat), none⟩
  else if -5 < point ∧ point ≤ 0 then
    ⟨negative, ['0'], some (List.replicate (-point).toNat '0' ++ digits), none⟩
  else
    ⟨negative, digits.take 1, if digits.length = 1 then none else some (digits.drop 1),
      some (decide (point - 1 < 0), Decimal.digits (point - 1).natAbs)⟩

/-- The shortest numeral of a finite floating-point number. -/
def ofFloat? (value : Float) : Option Numeral := do
  let bits := value.toBits
  let negative : Bool := UInt64.size / 2 ≤ bits.toNat
  let binary ← Binary.ofBits? bits
  if binary.significand = 0 then return ⟨negative, ['0'], some ['0'], none⟩
  let (digits, power) ← shortest binary
  return layout negative (Decimal.digits digits) power

/-- The numeral of a natural number is read back as that number. -/
theorem toNat?_ofNat (n : Nat) : (ofNat n).toNat? = some n := by
  simp [ofNat, toNat?, Decimal.toNat?_digits]

end Numeral

end GridAccess
