import GridAccess.Text.Base64
import GridAccess.Text.Search

/-!
# Armoured binary data

Binary data is kept in text files between two boundary lines that name its kind, in base64. Lines
hold 64 symbols, except for the last one, and an empty line may follow. Text may stand before the
first boundary.

## Main definitions

- `Pem` — the kind and the bytes
- `Pem.parse?` — the data in a text
-/

namespace GridAccess.Crypto

open Text

/-- Data with the name of its kind. -/
structure Pem where
  label : List Char
  bytes : List UInt8
  deriving DecidableEq, Repr

namespace Pem

/-- The start of the line before the data. -/
def beginMark : List Char := "-----BEGIN ".toList

/-- The start of the line after the data. -/
def endMark : List Char := "-----END ".toList

def dashes : List Char := "-----".toList

def lineWidth : Nat := 64

/-- A text without the line break at its start. -/
def afterBreak? : List Char → Option (List Char)
  | '\r' :: '\n' :: rest => some rest
  | '\r' :: rest => some rest
  | '\n' :: rest => some rest
  | _ => none

/-- A text, given in reverse, without the line break at its end. -/
def beforeBreak? : List Char → Option (List Char)
  | '\n' :: '\r' :: front => some front
  | '\n' :: front => some front
  | '\r' :: front => some front
  | _ => none

/-- A text without the line break at its end, if there is one. -/
def withoutBreak (text : List Char) : List Char :=
  ((beforeBreak? text.reverse).getD text.reverse).reverse

/-- The text after the first boundary's mark, which stands at the start of the text or of a line. The
text before it must not hold the character zero. -/
def afterPreamble? : List Char → Option (List Char)
  | [] => none
  | c :: text =>
    if c = '\x00' then none
    else if c = '\n' then
      match stripStart? beginMark text with
      | some rest => some rest
      | none => afterPreamble? text
    else afterPreamble? text

/-- The text after the mark of the first boundary. -/
def start? (text : List Char) : Option (List Char) :=
  match stripStart? beginMark text with
  | some rest => some rest
  | none => afterPreamble? text

/-- Whether a character may stand in a label. -/
def isLabelChar (c : Char) : Bool :=
  0x20 ≤ c.toNat && c.toNat ≤ 0x7E && c != '-'

/-- The label and the text after its line. -/
def label? (text : List Char) : Option (List Char × List Char) := do
  let rest ← stripStart? dashes (text.dropWhile isLabelChar)
  return (text.takeWhile isLabelChar, ← afterBreak? rest)

/-- The text before the second boundary, which ends the text but for one line break. -/
def body? (label text : List Char) : Option (List Char) := do
  let body ← stripEnd? (endMark ++ label ++ dashes) (withoutBreak text)
  let lines ← beforeBreak? body.reverse
  return lines.reverse

theorem length_of_afterBreak? {text rest : List Char} (h : afterBreak? text = some rest) :
    rest.length < text.length := by
  unfold afterBreak? at h
  split at h <;> grind

/-- The symbols of lines of the right width. A line break may follow the last one. -/
def symbols? (text : List Char) : Option (List Char) :=
  match _h : text.drop lineWidth with
  | [] => some (withoutBreak text)
  | c :: rest =>
    match _hbreak : afterBreak? (c :: rest) with
    | some more => (symbols? more).map (text.take lineWidth ++ ·)
    | none => none
termination_by text.length
decreasing_by
  have hmore := length_of_afterBreak? _hbreak
  have hlength := congrArg List.length _h
  simp only [List.length_drop] at hlength
  omega

def parse? (text : List Char) : Option Pem := do
  let afterMark ← start? text
  let (label, rest) ← label? afterMark
  let body ← body? label rest
  let bytes ← Base64.decodePadded? (← symbols? body)
  return ⟨label, bytes⟩

end Pem

end GridAccess.Crypto
