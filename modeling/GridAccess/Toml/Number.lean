import GridAccess.Data.Basic
import GridAccess.Text.Hex
import GridAccess.Toml.Trivia

/-!
# Numbers

Whole numbers have 64 bits and a sign, and are written with base ten, sixteen, eight or two.
Underscores may stand between digits. Numbers with a fraction or an exponent must not be too large.

## Main definitions

- `Toml.number?` — a number, as data
- `Toml.isTooLarge` — whether a number is rounded to infinity
-/

namespace GridAccess.Toml

open GridAccess.Text

/-- Digits with single underscores between them, which are left out, and the text after them. -/
def moreDigits (isDigit : Char → Bool) : List Char → List Char × List Char
  | '_' :: c :: rest =>
    if isDigit c then
      let found := moreDigits isDigit rest
      (c :: found.1, found.2)
    else ([], '_' :: c :: rest)
  | c :: rest =>
    if isDigit c then
      let found := moreDigits isDigit rest
      (c :: found.1, found.2)
    else ([], c :: rest)
  | [] => ([], [])

def digitRun? (isDigit : Char → Bool) : List Char → Option (List Char × List Char)
  | c :: rest =>
    if isDigit c then
      let found := moreDigits isDigit rest
      some (c :: found.1, found.2)
    else none
  | [] => none

/-- The digits before the point: a zero, or a run that does not start with one. -/
def wholeDigits? (text : List Char) : Option (List Char × List Char) :=
  match text with
  | '0' :: rest => some (['0'], rest)
  | _ => digitRun? Char.isDigit text

/-- The digits after a point, if there is one. -/
def fractionDigits? (text : List Char) : Option (Option (List Char) × List Char) :=
  match text with
  | '.' :: rest => (digitRun? Char.isDigit rest).map fun found => (some found.1, found.2)
  | _ => some (none, text)

/-- A sign, `true` for minus, and the text after it. -/
def sign (text : List Char) : Bool × List Char :=
  match text with
  | '-' :: rest => (true, rest)
  | '+' :: rest => (false, rest)
  | _ => (false, text)

/-- The exponent, if there is one: its sign and its digits. -/
def exponentDigits? (text : List Char) : Option (Option (Bool × List Char) × List Char) :=
  match text with
  | c :: rest =>
    if c = 'e' ∨ c = 'E' then
      let (negative, unsigned) := sign rest
      (digitRun? Char.isDigit unsigned).map fun found => (some (negative, found.1), found.2)
    else some (none, text)
  | [] => some (none, [])

/-- The least number that is rounded to infinity. -/
def infinityBound : Nat := (1 <<< 1024) - (1 <<< 970)

/-- Whether the magnitude of a number is rounded to infinity. -/
def isTooLarge (numeral : Numeral) : Bool :=
  let fraction := numeral.fraction.getD []
  let digits := (numeral.whole ++ fraction).dropWhile (· == '0')
  let shift : Int :=
    match numeral.exponent with
    | some (true, exponent) => -Int.ofNat (Nat.ofDigitChars 10 exponent 0)
    | some (false, exponent) => Int.ofNat (Nat.ofDigitChars 10 exponent 0)
    | none => 0
  let power := shift - Int.ofNat fraction.length
  let places := Int.ofNat digits.length + power
  if digits = [] ∨ places < 300 then false
  else if 320 < places then true
  else
    let significand := Nat.ofDigitChars 10 digits 0
    infinityBound * Nat.pow 10 (-power).toNat ≤ significand * Nat.pow 10 power.toNat

/-- A whole number as data, if it has 64 bits with its sign. -/
def integerData? (negative : Bool) (magnitude : Nat) : Option Data :=
  if magnitude = 0 then some (.number (.ofNat 0))
  else if negative then
    if magnitude ≤ UInt64.size / 2 then some (.number { Numeral.ofNat magnitude with negative := true })
    else none
  else if magnitude < UInt64.size / 2 then some (.number (.ofNat magnitude))
  else none

/-- A number that is not finite. It can be skipped, but nothing reads it. -/
def unreadable : Data := .text none

/-- A whole number in another base than ten, its mark already read. -/
def basedNumber? (base : Nat) (text : List Char) : Option (Data × List Char) := do
  let isDigit (c : Char) : Bool := (Hex.value? c).any (· < base)
  let (digits, rest) ← digitRun? isDigit text
  let value := digits.foldl (fun n c => n * base + (Hex.value? c).getD 0) 0
  return (← integerData? false value, rest)

/-- A number in base ten after its sign. -/
def decimalNumber? (negative : Bool) (text : List Char) : Option (Data × List Char) := do
  let (whole, afterWhole) ← wholeDigits? text
  let (fraction, afterFraction) ← fractionDigits? afterWhole
  let (exponent, rest) ← exponentDigits? afterFraction
  if fraction.isNone ∧ exponent.isNone then
    return (← integerData? negative (Nat.ofDigitChars 10 whole 0), rest)
  else
    let numeral : Numeral := ⟨negative, whole, fraction, exponent⟩
    if !negative && isTooLarge numeral then none else return (.number numeral, rest)

/-- A number, and the text after it. -/
def number? (text : List Char) : Option (Data × List Char) :=
  match text with
  | '0' :: 'x' :: rest => basedNumber? 16 rest
  | '0' :: 'o' :: rest => basedNumber? 8 rest
  | '0' :: 'b' :: rest => basedNumber? 2 rest
  | _ =>
    match sign text with
    | (_, 'i' :: 'n' :: 'f' :: rest) => some (unreadable, rest)
    | (_, 'n' :: 'a' :: 'n' :: rest) => some (unreadable, rest)
    | (negative, unsigned) => decimalNumber? negative unsigned

end GridAccess.Toml
