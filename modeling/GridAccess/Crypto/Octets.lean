/-!
# Numbers as bytes

Cryptographic formats write numbers in a fixed number of bytes, most or least significant first.

## Main definitions

- `natOfBig`, `bigOfNat` — most significant byte first
- `natOfLittle`, `littleOfNat` — least significant byte first
- `xorBytes` — bytes combined one by one

## Main statements

- `length_bigOfNat`, `length_littleOfNat` — the number of bytes
- `natOfBig_bigOfNat`, `natOfLittle_littleOfNat` — a number that fits is read back
-/

namespace GridAccess.Crypto

/-- The number written with its least significant byte first. -/
def natOfLittle : List UInt8 → Nat
  | [] => 0
  | b :: rest => b.toNat + 256 * natOfLittle rest

/-- The least significant bytes of a number, the least significant first. -/
def littleOfNat : Nat → Nat → List UInt8
  | 0, _ => []
  | count + 1, n => UInt8.ofNat (n % 256) :: littleOfNat count (n / 256)

/-- The number written with its most significant byte first. -/
def natOfBig (bytes : List UInt8) : Nat :=
  natOfLittle bytes.reverse

/-- The least significant bytes of a number, the most significant first. -/
def bigOfNat (count n : Nat) : List UInt8 :=
  (littleOfNat count n).reverse

/-- Bytes of two lists combined one by one, as far as both reach. -/
def xorBytes (a b : List UInt8) : List UInt8 :=
  List.zipWith (· ^^^ ·) a b

@[simp] theorem length_littleOfNat (count n : Nat) : (littleOfNat count n).length = count := by
  induction count generalizing n with
  | zero => rfl
  | succ count ih => simp [littleOfNat, ih]

@[simp] theorem length_bigOfNat (count n : Nat) : (bigOfNat count n).length = count := by
  simp [bigOfNat]

/-- The bytes written are those of the number modulo a power of 256. -/
theorem natOfLittle_littleOfNat_mod (count n : Nat) :
    natOfLittle (littleOfNat count n) = n % Nat.pow 256 count := by
  induction count generalizing n with
  | zero => simp [littleOfNat, natOfLittle, Nat.mod_one]
  | succ count ih =>
    have hbyte : (UInt8.ofNat (n % 256)).toNat = n % 256 := by simp
    have hpow : Nat.pow 256 (count + 1) = Nat.pow 256 count * 256 := rfl
    rw [littleOfNat, natOfLittle, ih, hbyte, hpow, Nat.mul_comm (Nat.pow 256 count), Nat.mod_mul]

theorem natOfLittle_littleOfNat {count n : Nat} (h : n < Nat.pow 256 count) :
    natOfLittle (littleOfNat count n) = n := by
  rw [natOfLittle_littleOfNat_mod, Nat.mod_eq_of_lt h]

theorem natOfBig_bigOfNat {count n : Nat} (h : n < Nat.pow 256 count) :
    natOfBig (bigOfNat count n) = n := by
  rw [natOfBig, bigOfNat, List.reverse_reverse, natOfLittle_littleOfNat h]

end GridAccess.Crypto
