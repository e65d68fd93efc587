import GridAccess.Crypto.Octets

/-!
# Tagged binary data

Keys are stored as nested elements, each a tag, a length and contents. Every element has one
encoding only: lengths and numbers are written in as few bytes as possible.

## Main definitions

- `Der.element?` — an element at the start of bytes, and the bytes after it
- `Der.contents?` — the contents of an element with a given tag
- `Der.whole?` — the contents of an element that is all of the bytes
- `Der.natural?` — a non-negative number

## Main statements

- `Der.length_of_element?` — an element takes up at least two bytes
-/

namespace GridAccess.Crypto.Der

/-- An element: its tag and its contents. -/
structure Element where
  tag : UInt8
  contents : List UInt8
  deriving DecidableEq, Repr

def integerTag : UInt8 := 0x02

def bitsTag : UInt8 := 0x03

def bytesTag : UInt8 := 0x04

def sequenceTag : UInt8 := 0x30

def generalTags : List UInt8 :=
  [0x01, 0x02, 0x03, 0x04, 0x05, 0x06, 0x09, 0x0A, 0x0C, 0x12, 0x13, 0x14, 0x15, 0x16, 0x17, 0x18,
    0x1A, 0x1E, 0x30, 0x31]

/-- Whether a byte is a tag: of a general type, or a number below 31 of another class. -/
def isTag (b : UInt8) : Bool :=
  if b < 0x40 then generalTags.contains b else b % 0x20 != 0x1F

/-- No element is longer than this. -/
def lengthBound : Nat := 1 <<< 28

/-- The least length that is written in so many bytes behind their number. -/
def leastLong (count : Nat) : Nat :=
  if count = 1 then 0x80 else 1 <<< (8 * (count - 1))

/-- A length of one to four bytes, and the bytes after it. -/
def longLength? (count : Nat) (bytes : List UInt8) : Option (Nat × List UInt8) :=
  if 1 ≤ count ∧ count ≤ 4 ∧ count ≤ bytes.length ∧ leastLong count ≤ natOfBig (bytes.take count) ∧
      natOfBig (bytes.take count) < lengthBound then
    some (natOfBig (bytes.take count), bytes.drop count)
  else none

/-- The length at the start of bytes, and the bytes after it. A length of 128 or more is written in
one to four bytes, their number in front. -/
def length? : List UInt8 → Option (Nat × List UInt8)
  | [] => none
  | b :: rest => if b < 0x80 then some (b.toNat, rest) else longLength? (b.toNat - 0x80) rest

/-- The element at the start of bytes, and the bytes after it. -/
def element? : List UInt8 → Option (Element × List UInt8)
  | [] => none
  | tag :: rest =>
    match length? rest with
    | some (length, rest) =>
      if isTag tag ∧ length ≤ rest.length then some (⟨tag, rest.take length⟩, rest.drop length)
      else none
    | none => none

/-- The contents of an element with a given tag, and the bytes after it. -/
def contents? (tag : UInt8) (bytes : List UInt8) : Option (List UInt8 × List UInt8) :=
  match element? bytes with
  | some (element, rest) => if element.tag = tag then some (element.contents, rest) else none
  | none => none

/-- The contents of an element with a given tag that is all of the bytes. -/
def whole? (tag : UInt8) (bytes : List UInt8) : Option (List UInt8) :=
  match contents? tag bytes with
  | some (contents, []) => some contents
  | _ => none

/-- The non-negative number with these contents. A zero is in front exactly if the next byte would
make the number negative. -/
def naturalOf? : List UInt8 → Option Nat
  | [] => none
  | [b] => if b < 0x80 then some b.toNat else none
  | a :: b :: rest =>
    if (a = 0 ∧ b < 0x80) ∨ 0x80 ≤ a then none else some (natOfBig (a :: b :: rest))

/-- The non-negative number at the start of bytes, and the bytes after it. -/
def natural? (bytes : List UInt8) : Option (Nat × List UInt8) := do
  let (contents, rest) ← contents? integerTag bytes
  return (← naturalOf? contents, rest)

/-- The bytes of a string of bits that fills them. -/
def bitsOf? : List UInt8 → Option (List UInt8)
  | 0 :: bytes => some bytes
  | _ => none

theorem length_of_length? {bytes rest : List UInt8} {n : Nat}
    (h : length? bytes = some (n, rest)) : rest.length < bytes.length := by
  cases bytes with
  | nil => simp [length?] at h
  | cons b tail =>
    rw [length?] at h
    split at h
    · simp only [Option.some.injEq, Prod.mk.injEq] at h
      simp [← h.2]
    · unfold longLength? at h
      split at h
      · simp only [Option.some.injEq, Prod.mk.injEq] at h
        rw [← h.2, List.length_drop, List.length_cons]
        omega
      · simp at h

/-- An element takes up at least two bytes. -/
theorem length_of_element? {bytes rest : List UInt8} {element : Element}
    (h : element? bytes = some (element, rest)) : rest.length + 2 ≤ bytes.length := by
  cases bytes with
  | nil => simp [element?] at h
  | cons tag tail =>
    simp only [element?] at h
    split at h
    · next length after hlength =>
      have := length_of_length? hlength
      split at h
      · cases h
        simp only [List.length_drop, List.length_cons]
        omega
      · cases h
    · cases h

end GridAccess.Crypto.Der
