import GridAccess.Text.Hex
import GridAccess.Text.Utf8

/-!
# Texts in JSON

A text is written between quotes, byte by byte, with escapes for quotes, backslashes and control
characters. Reading accepts escapes of UTF-16 units as well. A text whose units are not paired, or
whose bytes are not UTF-8, is well-formed but denotes no text.

## Main definitions

- `Json.writeText` — a text between quotes
- `Json.Piece` — a byte or a UTF-16 unit of a text being read
- `Json.pieces?` — the pieces up to the closing quote
- `Json.bytes?` — the bytes that pieces denote

## Main statements

- `Json.bytes?_map_byte` — bytes without escapes denote themselves
-/

namespace GridAccess.Json

open Text

/-- The escape of a byte, or the byte itself. -/
def writeByte (b : UInt8) : List UInt8 :=
  if b = 0x22 then [0x5C, 0x22]
  else if b = 0x5C then [0x5C, 0x5C]
  else if b = 0x08 then [0x5C, 0x62]
  else if b = 0x0C then [0x5C, 0x66]
  else if b = 0x0A then [0x5C, 0x6E]
  else if b = 0x0D then [0x5C, 0x72]
  else if b = 0x09 then [0x5C, 0x74]
  else if b < 0x20 then
    [0x5C, 0x75, 0x30, 0x30, if b < 0x10 then 0x30 else 0x31,
      UInt8.ofNat (Hex.digit (b.toNat % 16)).toNat]
  else [b]

def writeBytes (bytes : List UInt8) : List UInt8 :=
  bytes.flatMap writeByte

def writeText (text : String) : List UInt8 :=
  0x22 :: writeBytes (Utf8.encode text) ++ [0x22]

/-- A byte of a text, or a UTF-16 unit given by an escape. -/
inductive Piece where
  | byte (value : UInt8)
  | unit (value : Nat)
  deriving DecidableEq, Repr

/-- The byte of an escape with one letter. -/
def letter? (b : UInt8) : Option UInt8 :=
  if b = 0x22 ∨ b = 0x5C ∨ b = 0x2F then some b
  else if b = 0x62 then some 0x08
  else if b = 0x66 then some 0x0C
  else if b = 0x6E then some 0x0A
  else if b = 0x72 then some 0x0D
  else if b = 0x74 then some 0x09
  else none

/-- The unit given by four hexadecimal digits. -/
def unit? (a b c d : UInt8) : Option Nat :=
  Hex.toNat? ([a, b, c, d].map fun x => Char.ofNat x.toNat)

/-- The pieces of a text up to its closing quote, and the bytes after the quote. -/
def pieces? : List UInt8 → Option (List Piece × List UInt8)
  | [] => none
  | 0x5C :: 0x75 :: a :: b :: c :: d :: rest => do
    let unit ← unit? a b c d
    let (pieces, after) ← pieces? rest
    return (.unit unit :: pieces, after)
  | 0x5C :: e :: rest => do
    let byte ← letter? e
    let (pieces, after) ← pieces? rest
    return (.byte byte :: pieces, after)
  | b :: rest =>
    if b = 0x22 then some ([], rest)
    else if b < 0x20 ∨ b = 0x5C then none
    else do
      let (pieces, after) ← pieces? rest
      return (.byte b :: pieces, after)

def codePointBytes (code : Nat) : List UInt8 :=
  Utf8.encode (String.ofList [Char.ofNat code])

/-- The bytes that pieces denote: a unit of the upper half of a pair has to be followed by one of
the lower half, which cannot stand alone. -/
def bytes? : List Piece → Option (List UInt8)
  | [] => some []
  | .byte b :: rest => (bytes? rest).map (b :: ·)
  | .unit high :: .unit low :: rest =>
    if 0xD800 ≤ high ∧ high < 0xDC00 then
      if 0xDC00 ≤ low ∧ low < 0xE000 then
        (bytes? rest).map (codePointBytes (0x10000 + (high - 0xD800) * 0x400 + (low - 0xDC00)) ++ ·)
      else none
    else if 0xDC00 ≤ high ∧ high < 0xE000 then none
    else (bytes? (.unit low :: rest)).map (codePointBytes high ++ ·)
  | .unit unit :: rest =>
    if 0xD800 ≤ unit ∧ unit < 0xE000 then none
    else (bytes? rest).map (codePointBytes unit ++ ·)

def textOf (pieces : List Piece) : Option String :=
  (bytes? pieces).bind Utf8.decode?

@[simp] theorem bytes?_map_byte (bytes : List UInt8) : bytes? (bytes.map .byte) = some bytes := by
  induction bytes with
  | nil => rfl
  | cons b rest ih => simp [bytes?, ih]

end GridAccess.Json
