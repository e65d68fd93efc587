/-!
# Powers modulo a number

## Main definitions

- `powMod` — a power modulo a number, by repeated squaring

## Main statements

- `powMod_eq` — it is the remainder of the power
-/

namespace GridAccess.Crypto

/-- The power of `base` to `exponent`, times `factor`, modulo `modulus`. -/
def powModTimes (modulus : Nat) (factor base exponent : Nat) : Nat :=
  if h : exponent = 0 then factor % modulus
  else
    let next := if exponent % 2 = 1 then factor * base % modulus else factor
    powModTimes modulus next (base * base % modulus) (exponent / 2)
termination_by exponent
decreasing_by omega

/-- The power of `base` to `exponent` modulo `modulus`. -/
def powMod (base exponent modulus : Nat) : Nat :=
  powModTimes modulus 1 (base % modulus) exponent

theorem powModTimes_eq (modulus factor base exponent : Nat) :
    powModTimes modulus factor base exponent = factor * Nat.pow base exponent % modulus := by
  induction exponent using Nat.strongRecOn generalizing factor base with
  | _ exponent ih =>
    unfold powModTimes
    split
    · next h => simp [h]
    · next h =>
      have hsquare (k : Nat) : Nat.pow (base * base % modulus) k % modulus =
          Nat.pow base (2 * k) % modulus := by
        simp only [Nat.pow_eq]
        rw [← Nat.pow_mod, ← Nat.pow_two, ← Nat.pow_mul]
      have hsucc (k : Nat) : base * Nat.pow base k = Nat.pow base (k + 1) := Nat.pow_succ'.symm
      have hhalf := Nat.div_add_mod exponent 2
      simp only
      rw [ih (exponent / 2) (by omega)]
      split
      · next hodd =>
        rw [Nat.mul_mod, hsquare, Nat.mod_mod, ← Nat.mul_mod, Nat.mul_assoc, hsucc,
          show 2 * (exponent / 2) + 1 = exponent by omega]
      · next heven =>
        rw [Nat.mul_mod, hsquare, ← Nat.mul_mod, show 2 * (exponent / 2) = exponent by omega]

theorem powMod_eq (base exponent modulus : Nat) :
    powMod base exponent modulus = Nat.pow base exponent % modulus := by
  rw [powMod, powModTimes_eq, Nat.one_mul]
  exact (Nat.pow_mod base exponent modulus).symm

end GridAccess.Crypto
