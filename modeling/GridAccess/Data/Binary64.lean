/-!
# Floating-point numbers by their bits

A floating-point number of double precision is given by its 64 bits. Many patterns stand for no
number at all. Sums keep such patterns apart, and so does the total order of all patterns: they stand
at one of its ends, each on the side of its sign.

## Main definitions

- `Binary64` — a pattern of bits
- `Binary64.add` — the sum of two patterns
- `Binary64.position` — where a pattern stands in the total order
-/

namespace GridAccess

/-- The bits of a floating-point number, or of something that is no number. -/
structure Binary64 where
  toBits : UInt64
  deriving DecidableEq, Repr

namespace Binary64

def ofFloat (value : Float) : Binary64 :=
  ⟨value.toBits⟩

instance : Coe Float Binary64 :=
  ⟨ofFloat⟩

def toFloat (value : Binary64) : Float :=
  .ofBits value.toBits

def zero : Binary64 := ⟨0⟩

/-- The largest number. -/
def largest : Binary64 := ⟨0x7FEFFFFFFFFFFFFF⟩

/-- The bit of the sign. -/
def signBit : Nat := 0x8000000000000000

/-- The bits without that of the sign. -/
def magnitude (value : Binary64) : Nat :=
  value.toBits.toNat % signBit

/-- The magnitude of the infinities. All patterns beyond are no numbers. -/
def infinity : Nat := 0x7FF0000000000000

def isNumber (value : Binary64) : Bool :=
  value.magnitude ≤ infinity

def isInfinite (value : Binary64) : Bool :=
  value.magnitude = infinity

/-- The pattern with the first bit of the fraction set. -/
def quiet (value : Binary64) : Binary64 :=
  ⟨value.toBits ||| 0x0008000000000000⟩

/-- What stands for the sum of opposite infinities. It has a sign. -/
def undefined : Binary64 := ⟨0xFFF8000000000000⟩

/-- The sum of two patterns. The first that is no number stands for the sum. -/
def add (a b : Binary64) : Binary64 :=
  if !a.isNumber then a.quiet
  else if !b.isNumber then b.quiet
  else if a.isInfinite && b.isInfinite && a ≠ b then undefined
  else ofFloat (a.toFloat + b.toFloat)

instance : Add Binary64 :=
  ⟨add⟩

/-- The position of a pattern in the total order, where those with a sign stand in reverse before the
others. -/
def position (value : Binary64) : Nat :=
  if value.toBits.toNat < signBit then value.toBits.toNat + signBit
  else UInt64.size - 1 - value.toBits.toNat

end Binary64

end GridAccess
