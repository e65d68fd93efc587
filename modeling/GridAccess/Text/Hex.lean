/-!
# Hexadecimal text

Numbers and bytes in lower-case hexadecimal digits; digits of either case are read.

## Main definitions

- `Hex.fixed` — the digits of a number in a fixed number of places
- `Hex.digits` — the digits of a number without leading zeros
- `Hex.toNat?` — the number denoted by digits
- `Hex.encode`, `Hex.decode?` — two digits for each byte

## Main statements

- `Hex.toNat?_fixed` — fixed-width digits are read back
-/

namespace GridAccess.Text.Hex

def digit (n : Nat) : Char :=
  Char.ofNat (if n < 10 then 0x30 + n else 0x57 + n)

def value? (c : Char) : Option Nat :=
  let n := c.toNat
  if 0x30 ≤ n && n ≤ 0x39 then some (n - 0x30)
  else if 0x61 ≤ n && n ≤ 0x66 then some (n - 0x57)
  else if 0x41 ≤ n && n ≤ 0x46 then some (n - 0x37)
  else none

/-- The last `places` digits of a number. -/
def fixed : Nat → Nat → List Char
  | 0, _ => []
  | places + 1, n => fixed places (n / 16) ++ [digit (n % 16)]

/-- The digits of a number, without leading zeros. -/
def digits (n : Nat) : List Char :=
  Nat.toDigits 16 n

/-- The number denoted by digits, with `sofar` denoted by the digits before them. -/
def toNatFrom? (sofar : Nat) : List Char → Option Nat
  | [] => some sofar
  | c :: rest => (value? c).bind fun v => toNatFrom? (16 * sofar + v) rest

def toNat? (text : List Char) : Option Nat :=
  toNatFrom? 0 text

def encode (bytes : List UInt8) : List Char :=
  bytes.flatMap fun b => [digit (b.toNat / 16), digit (b.toNat % 16)]

def decode? : List Char → Option (List UInt8)
  | [] => some []
  | [_] => none
  | a :: b :: rest => do
    let high ← value? a
    let low ← value? b
    let bytes ← decode? rest
    return UInt8.ofNat (16 * high + low) :: bytes

def isDigits (text : List Char) : Bool :=
  text.all fun c => (value? c).isSome

theorem value?_digit {n : Nat} (h : n < 16) : value? (digit n) = some n := by
  have hall : ∀ k : Fin 16, value? (digit k.val) = some k.val := by decide
  exact hall ⟨n, h⟩

@[simp] theorem length_fixed (places n : Nat) : (fixed places n).length = places := by
  induction places generalizing n with
  | zero => rfl
  | succ places ih => simp [fixed, ih]

/-- Fixed-width digits are digits below sixteen. -/
theorem mem_fixed {places n : Nat} {c : Char} (h : c ∈ fixed places n) :
    ∃ value < 16, c = digit value := by
  induction places generalizing n with
  | zero => cases h
  | succ places ih =>
    rw [fixed, List.mem_append, List.mem_singleton] at h
    rcases h with h | rfl
    · exact ih h
    · exact ⟨n % 16, Nat.mod_lt n (by decide), rfl⟩

theorem toNatFrom?_append (front back : List Char) (sofar : Nat) :
    toNatFrom? sofar (front ++ back) = (toNatFrom? sofar front).bind (toNatFrom? · back) := by
  induction front generalizing sofar with
  | nil => rfl
  | cons c front ih =>
    simp only [List.cons_append, toNatFrom?]
    cases value? c with
    | none => rfl
    | some v => exact ih _

theorem toNatFrom?_fixed (places n sofar : Nat) (h : n < Nat.pow 16 places) :
    toNatFrom? sofar (fixed places n) = some (Nat.pow 16 places * sofar + n) := by
  induction places generalizing n with
  | zero =>
    have hn : n = 0 := by simpa using h
    subst hn
    simp [fixed, toNatFrom?]
  | succ places ih =>
    have hpow : Nat.pow 16 (places + 1) = Nat.pow 16 places * 16 := rfl
    have hdiv : n / 16 < Nat.pow 16 places := by
      rw [Nat.div_lt_iff_lt_mul (by decide)]
      rwa [hpow] at h
    simp only [fixed, toNatFrom?_append, ih _ hdiv, Option.bind_some, toNatFrom?,
      value?_digit (Nat.mod_lt n (by decide : 0 < 16)), Option.some.injEq]
    rw [hpow, Nat.mul_add, ← Nat.mul_assoc, Nat.mul_comm 16 (Nat.pow 16 places)]
    omega

/-- Fixed-width digits of a number that fits are read back as that number. -/
theorem toNat?_fixed {places n : Nat} (h : n < Nat.pow 16 places) :
    toNat? (fixed places n) = some n := by
  simp [toNat?, toNatFrom?_fixed places n 0 h]

end GridAccess.Text.Hex
