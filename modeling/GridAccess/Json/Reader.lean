import GridAccess.Data.Basic
import GridAccess.Json.Text

/-!
# Reading JSON

Data is read from bytes. Each step returns what it has read and the bytes after it.

## Main definitions

- `Json.numeral?` — a number
- `Json.value?` — any value, with a bound on the number of steps
- `Json.parse?` — a whole text: one value with white space around it
-/

namespace GridAccess.Json

def isSpace (b : UInt8) : Bool :=
  b == 0x20 || b == 0x0A || b == 0x0D || b == 0x09

def skipSpace (input : List UInt8) : List UInt8 :=
  input.dropWhile isSpace

def isDigit (b : UInt8) : Bool :=
  0x30 ≤ b && b ≤ 0x39

/-- The digits at the start, and the bytes after them. -/
def takeDigits (input : List UInt8) : List Char × List UInt8 :=
  ((input.takeWhile isDigit).map fun b => Char.ofNat b.toNat, input.dropWhile isDigit)

def digits? (input : List UInt8) : Option (List Char × List UInt8) :=
  match takeDigits input with
  | ([], _) => none
  | found => some found

/-- The digits before the point: a zero, or a run that does not start with one. -/
def whole? (input : List UInt8) : Option (List Char × List UInt8) :=
  match digits? input with
  | some ('0' :: _ :: _, _) => none
  | found => found

/-- The digits after a point, if there is one. -/
def fraction? (input : List UInt8) : Option (Option (List Char) × List UInt8) :=
  match input with
  | 0x2E :: rest => (digits? rest).map fun found => (some found.1, found.2)
  | _ => some (none, input)

/-- The exponent, if there is one: its sign and its digits. -/
def exponent? (input : List UInt8) : Option (Option (Bool × List Char) × List UInt8) :=
  match input with
  | b :: rest =>
    if b = 0x65 ∨ b = 0x45 then
      let (negative, unsigned) :=
        match rest with
        | 0x2D :: more => (true, more)
        | 0x2B :: more => (false, more)
        | _ => (false, rest)
      (digits? unsigned).map fun found => (some (negative, found.1), found.2)
    else some (none, input)
  | [] => some (none, input)

/-- A number at the start, and the bytes after it. -/
def numeral? (input : List UInt8) : Option (Numeral × List UInt8) := do
  let (negative, unsigned) :=
    match input with
    | 0x2D :: rest => (true, rest)
    | _ => (false, input)
  let (whole, afterWhole) ← whole? unsigned
  let (fraction, afterFraction) ← fraction? afterWhole
  let (exponent, rest) ← exponent? afterFraction
  return (⟨negative, whole, fraction, exponent⟩, rest)

/-- A text whose opening quote has been read, and the bytes after its closing quote. -/
def text? (input : List UInt8) : Option (Option String × List UInt8) :=
  (pieces? input).map fun found => (textOf found.1, found.2)

mutual

/-- A value at the start, after white space, and the bytes after it. -/
def value? : Nat → List UInt8 → Option (Data × List UInt8)
  | 0, _ => none
  | steps + 1, input =>
    match skipSpace input with
    | 0x6E :: 0x75 :: 0x6C :: 0x6C :: rest => some (.null, rest)
    | 0x74 :: 0x72 :: 0x75 :: 0x65 :: rest => some (.bool true, rest)
    | 0x66 :: 0x61 :: 0x6C :: 0x73 :: 0x65 :: rest => some (.bool false, rest)
    | 0x22 :: rest => (text? rest).map fun found => (.text found.1, found.2)
    | 0x5B :: rest =>
      match skipSpace rest with
      | 0x5D :: after => some (.list [], after)
      | inside => (items? steps inside).map fun found => (.list found.1, found.2)
    | 0x7B :: rest =>
      match skipSpace rest with
      | 0x7D :: after => some (.table [], after)
      | inside => (fields? steps inside).map fun found => (.table found.1, found.2)
    | other => (numeral? other).map fun found => (.number found.1, found.2)

/-- The items of a list up to its closing bracket. -/
def items? : Nat → List UInt8 → Option (List Data × List UInt8)
  | 0, _ => none
  | steps + 1, input => do
    let (item, afterItem) ← value? steps input
    match skipSpace afterItem with
    | 0x2C :: rest =>
      let (items, after) ← items? steps rest
      return (item :: items, after)
    | 0x5D :: after => return ([item], after)
    | _ => none

/-- The fields of a table up to its closing brace. -/
def fields? : Nat → List UInt8 → Option (List (Option String × Data) × List UInt8)
  | 0, _ => none
  | steps + 1, input => do
    match skipSpace input with
    | 0x22 :: quoted =>
      let (name, afterName) ← text? quoted
      match skipSpace afterName with
      | 0x3A :: afterColon =>
        let (value, afterValue) ← value? steps afterColon
        match skipSpace afterValue with
        | 0x2C :: rest =>
          let (fields, after) ← fields? steps rest
          return ((name, value) :: fields, after)
        | 0x7D :: after => return ([(name, value)], after)
        | _ => none
      | _ => none
    | _ => none

end

/-- The data of a whole text. Each step reads at least one byte, so their number bounds the
steps. -/
def parse? (input : List UInt8) : Option Data :=
  match value? (2 * input.length + 2) input with
  | some (data, rest) => if skipSpace rest = [] then some data else none
  | none => none

end GridAccess.Json
