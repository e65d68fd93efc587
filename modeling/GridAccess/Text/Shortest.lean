import GridAccess.Text.Decimal

/-!
# Shortest decimals

A finite floating-point number is written with the fewest digits that are read back as the same
number, and of several such digit strings with the one nearest to the number.

The numbers that are rounded to `m * 2 ^ q` form an interval around it, with its ends if `m` is
even. For coarser and coarser powers of ten, the multiples of the power next to the number are
tested against the interval.

## Main definitions

- `Binary` — a number `significand * 2 ^ exponent`, as it is stored in 64 bits
- `Interval` — the numbers that are rounded to it, over a common denominator
- `shortest` — the digits and the power of ten
-/

namespace GridAccess.Text

/-- A positive number `significand * 2 ^ exponent`. -/
structure Binary where
  significand : Nat
  exponent : Int
  deriving DecidableEq, Repr

/-- The bit before the point of a significand, which is not stored: 2⁵². -/
def leadingBit : Nat := 1 <<< 52

/-- The magnitude stored in 64 bits, or `none` for infinities and what is not a number. -/
def Binary.ofBits? (bits : UInt64) : Option Binary :=
  let n := bits.toNat
  let biased : Nat := (n >>> 52) % 2048
  let fraction : Nat := n % leadingBit
  if biased = 2047 then none
  else if biased = 0 then some ⟨fraction, -1074⟩
  else some ⟨leadingBit + fraction, Int.ofNat biased - 1075⟩

/-- The numbers that are rounded to one number: from `lower / denominator` to
`upper / denominator`, around `value / denominator`. -/
structure Interval where
  lower : Nat
  value : Nat
  upper : Nat
  denominator : Nat
  closed : Bool
  deriving DecidableEq, Repr

/-- The interval of a stored number. Its lower half is half as long below a power of two. -/
def Interval.around (number : Binary) : Interval :=
  let quarters := 4 * number.significand
  let below := if number.significand = leadingBit ∧ -1074 < number.exponent then 1 else 2
  let scale := 1 <<< (number.exponent - 2).toNat
  { lower := (quarters - below) * scale
    value := quarters * scale
    upper := (quarters + 2) * scale
    denominator := 1 <<< (2 - number.exponent).toNat
    closed := number.significand % 2 = 0 }

/-- Whether `point / unit` lies in the interval multiplied by `scale`. -/
def Interval.holds (interval : Interval) (scale unit point : Nat) : Bool :=
  let low := interval.lower * scale
  let high := interval.upper * scale
  let x := point * unit
  if interval.closed then low ≤ x && x ≤ high else low < x && x < high

/-- The positive multiple of `10 ^ power` that lies in the interval and is nearest to its value,
an even multiple if two are. -/
def Interval.multiple? (interval : Interval) (power : Int) : Option Nat :=
  let unit := Nat.pow 10 power.toNat * interval.denominator
  let scale := Nat.pow 10 (-power).toNat
  let value := interval.value * scale
  let below := value / unit
  let above := below + 1
  let belowHit := 0 < below && interval.holds scale unit below
  let aboveHit := interval.holds scale unit above
  let middle := (2 * below + 1) * unit
  let preferBelow := 2 * value < middle || (2 * value = middle && below % 2 = 0)
  if belowHit && (preferBelow || !aboveHit) then some below
  else if aboveHit then some above
  else none

/-- The first of the powers `power, power - 1, …` that has a multiple in the interval. -/
def Interval.search (interval : Interval) : Nat → Int → Option (Nat × Int)
  | 0, _ => none
  | steps + 1, power =>
    match interval.multiple? power with
    | some digits => some (digits, power)
    | none => interval.search steps (power - 1)

/-- The shortest digits of a number, and the power of ten they are multiplied by. The powers
tested reach from above the greatest number down to seventeen digits of the least. -/
def shortest (number : Binary) : Option (Nat × Int) :=
  (Interval.around number).search 660 310

end GridAccess.Text
