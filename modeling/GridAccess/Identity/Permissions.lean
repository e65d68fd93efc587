import GridAccess.Text.Blank

/-!
# Permissions

Three octal digits say what the owner, the group and everyone else may do.

## Main definitions

- `PermissionClass` — whose digit applies
- `Permissions` — three sets of read, write and execute bits
- `Permissions.parse` — reads `755` and `0755`
- `Permissions.text` — the three digits

## Main statements

- `Permissions.parse_text` — the digits are read back
-/

namespace GridAccess

open Text

/-- Whose permission bits apply to someone. -/
inductive PermissionClass where
  | owner
  | group
  | other
  deriving DecidableEq, Repr

/-- The read, write and execute bits of the three classes. -/
structure Permissions where
  owner : BitVec 3
  group : BitVec 3
  other : BitVec 3
  deriving DecidableEq, Repr

/-- Why a text denotes no permissions. -/
inductive PermissionsError where
  | invalidLength (text : String)
  | invalidDigit (text : String)
  deriving DecidableEq, Repr

namespace Permissions

def readBit : BitVec 3 := 4#3

def writeBit : BitVec 3 := 2#3

/-- Everything for the owner, reading and entering for the others. -/
def standard : Permissions := ⟨7#3, 5#3, 5#3⟩

/-- The lowest three bits of three numbers. -/
def ofNats (owner group other : Nat) : Permissions :=
  ⟨BitVec.ofNat 3 owner, BitVec.ofNat 3 group, BitVec.ofNat 3 other⟩

def bits (permissions : Permissions) : PermissionClass → BitVec 3
  | .owner => permissions.owner
  | .group => permissions.group
  | .other => permissions.other

/-- Whether a class has all bits of a mask. -/
def allows (permissions : Permissions) (who : PermissionClass) (mask : BitVec 3) : Bool :=
  permissions.bits who &&& mask == mask

def octal? (c : Char) : Option (BitVec 3) :=
  if 0x30 ≤ c.toNat ∧ c.toNat ≤ 0x37 then some (BitVec.ofNat 3 (c.toNat - 0x30)) else none

/-- The octal digit of a set of bits. -/
def digit (bits : BitVec 3) : Char :=
  Char.ofNat (0x30 + bits.toNat)

/-- The three digits of a text, without the zero that may stand before them. Lengths are counted
in bytes. -/
def digitsOf (text : List Char) : List Char :=
  match text with
  | '0' :: rest => if (String.ofList text).utf8ByteSize = 4 then rest else text
  | _ => text

/-- The permissions denoted by three octal digits, with white space around them and a zero before
them permitted. A text of another length is reported before a digit out of range. -/
def parse (text : String) : Except PermissionsError Permissions :=
  let trimmed := trim text.toList
  let digits := digitsOf trimmed
  if (String.ofList digits).utf8ByteSize = 3 then
    match digits.mapM octal? with
    | some [owner, group, other] => .ok ⟨owner, group, other⟩
    | _ => .error (.invalidDigit (String.ofList trimmed))
  else .error (.invalidLength (String.ofList trimmed))

def text (permissions : Permissions) : String :=
  String.ofList [digit permissions.owner, digit permissions.group, digit permissions.other]

/-- A digit is read back as the bits it stands for. -/
theorem octal?_digit : ∀ bits : BitVec 3, octal? (digit bits) = some bits := by decide

theorem isBlank_digit : ∀ bits : BitVec 3, isBlank (digit bits) = false := by decide

theorem utf8Size_digit : ∀ bits : BitVec 3, (digit bits).utf8Size = 1 := by decide

theorem parse_text (permissions : Permissions) : parse permissions.text = .ok permissions := by
  obtain ⟨owner, group, other⟩ := permissions
  have hsize : (String.ofList [digit owner, digit group, digit other]).utf8ByteSize = 3 := by
    simp [utf8Size_digit]
  have htrim : trim [digit owner, digit group, digit other] =
      [digit owner, digit group, digit other] := by
    simp [trim, trimStart, trimEnd, dropEnd, isBlank_digit]
  have hdigits : digitsOf [digit owner, digit group, digit other] =
      [digit owner, digit group, digit other] := by
    unfold digitsOf
    split
    · rw [if_neg (by rw [hsize]; decide)]
    · rfl
  simp [parse, text, htrim, hdigits, utf8Size_digit, octal?_digit]

end Permissions

def PermissionsError.message : PermissionsError → String
  | .invalidLength text => s!"permission string '{text}' must have three octal digits"
  | .invalidDigit text => s!"permission string '{text}' contains a non-octal digit"

end GridAccess
