import GridAccess.Text.Blank
import GridAccess.Text.Decimal
import GridAccess.Text.Hex
import GridAccess.Text.Search

/-!
# Content identifiers

A file's content has an identifier of 128 bits, whatever names point at it. It is written as 32
hexadecimal digits in five groups, and several other spellings are read.

## Main definitions

- `Guid` — an identifier of 128 bits
- `Guid.text` — the canonical spelling, 36 characters
- `Guid.parse` — reads plain, hyphenated, braced and `urn:uuid:` spellings
- `Guid.ofBytes` — the identifier of sixteen bytes
- `Guid.directory` — where a file with this identifier lies below a storage directory

## Main statements

- `Guid.length_group` — the canonical grouping of 32 digits has 36 characters
-/

namespace GridAccess

open Text

/-- The identifier of a file's content. -/
structure Guid where
  bits : BitVec 128
  deriving DecidableEq, Repr

/-- Why bytes or a text are no identifier. -/
inductive GuidError where
  | invalidLength (length : Nat)
  | invalidText
  deriving DecidableEq, Repr

namespace Guid

/-- Hexadecimal digits in groups of 8, 4, 4, 4 and 12. -/
def group (digits : List Char) : List Char :=
  digits.take 8 ++ '-' :: (digits.drop 8).take 4 ++ '-' :: (digits.drop 12).take 4 ++
    '-' :: (digits.drop 16).take 4 ++ '-' :: digits.drop 20

/-- The digits of five groups of 8, 4, 4, 4 and 12 characters with hyphens between them. -/
def ungroup? (text : List Char) : Option (List Char) :=
  if text.length = 36 ∧ text[8]? = some '-' ∧ text[13]? = some '-' ∧ text[18]? = some '-' ∧
      text[23]? = some '-' then
    some (text.take 8 ++ (text.drop 9).take 4 ++ (text.drop 14).take 4 ++ (text.drop 19).take 4 ++
      text.drop 24)
  else none

/-- The canonical spelling: lower-case digits in five groups. -/
def chars (guid : Guid) : List Char :=
  group (Hex.fixed 32 guid.bits.toNat)

def text (guid : Guid) : String :=
  String.ofList guid.chars

def ofDigits? (digits : List Char) : Option Guid :=
  if digits.length = 32 then (Hex.toNat? digits).map fun n => ⟨BitVec.ofNat 128 n⟩ else none

/-- The digits of a spelling: plain, in groups, in groups between braces, or in groups after
`urn:uuid:` in any case. -/
def digitsOf? (text : List Char) : Option (List Char) :=
  if text.length = 32 then some text
  else if text.length = 36 then ungroup? text
  else if text.length = 38 then
    ((stripStart? ['\x7b'] text).bind (stripEnd? ['\x7d'])).bind ungroup?
  else if (text.take 9).map Char.toLower = "urn:uuid:".toList then ungroup? (text.drop 9)
  else none

/-- The identifier denoted by a text in any of its spellings, white space around it ignored. -/
def parse (text : String) : Except GuidError Guid :=
  match (digitsOf? (trim text.toList)).bind ofDigits? with
  | some guid => .ok guid
  | none => .error .invalidText

/-- The identifier of sixteen bytes, most significant first. -/
def ofBytes (bytes : List UInt8) : Except GuidError Guid :=
  if bytes.length = 16 then
    .ok ⟨BitVec.ofNat 128 (bytes.foldl (fun n b => 256 * n + b.toNat) 0)⟩
  else .error (.invalidLength bytes.length)

/-- The sixteen bytes of an identifier, most significant first. -/
def bytes (guid : Guid) : List UInt8 :=
  (List.range 16).map fun i => UInt8.ofNat (guid.bits.toNat >>> (8 * (15 - i)) % 256)

/-- The four 32-bit words of an identifier, combined by exclusive or. -/
def fold (guid : Guid) : BitVec 32 :=
  let halves := guid.bits.extractLsb' 64 64 ^^^ guid.bits.extractLsb' 0 64
  halves.extractLsb' 32 32 ^^^ halves.extractLsb' 0 32

/-- The place of a file below a storage directory: two directory levels that spread the files,
then the identifier. -/
def directory (guid : Guid) : List Char :=
  Decimal.padded 2 (guid.fold.toNat % 16) ++ '/' ::
    Decimal.padded 5 (guid.fold.toNat % 100000) ++ '/' :: guid.chars

/-- The identifier of sixteen bytes drawn at random, with the marks of a random identifier: version
four and the variant of the standard layout. -/
def ofRandom (entropy : BitVec 128) : Guid :=
  ⟨entropy &&& 0xFFFFFFFFFFFF0FFF3FFFFFFFFFFFFFFF#128 ||| 0x40008000000000000000#128⟩

/-- Whether an identifier carries the marks of a random one. -/
def isRandom (guid : Guid) : Bool :=
  guid.bits.extractLsb' 76 4 == 4#4 && guid.bits.extractLsb' 62 2 == 2#2

theorem length_group {digits : List Char} (h : digits.length = 32) :
    (group digits).length = 36 := by
  simp [group, h]

end Guid

/-- The wording of the error, where it has one. -/
def GuidError.message : GuidError → Option String
  | .invalidLength length => some s!"invalid guid length {length} bytes, expected 16 bytes"
  | .invalidText => none

end GridAccess
