import GridAccess.Crypto.Signature
import Mathlib.FieldTheory.Finite.Basic
import Mathlib.NumberTheory.LucasLehmer

/-!
# Genuine RSA key pairs

A key that was read has a modulus that is the product of two numbers, and exponents that undo each
other as far as these numbers are primes. In a genuine pair they are primes, and distinct. Then each
of the two operations undoes the other, and the public half accepts what the private half signs.

## Main definitions

- `RsaPrivateKey.IsGenuine` — a sound key whose factors are distinct primes
- `RsaPrivateKey.SignsFor` — a private key whose signatures a public key accepts
- `SignatureDigest.leastSize` — the size of key that signing takes
- `mersennePair` — a genuine pair

## Main statements

- `publicKey_apply_apply`, `apply_publicKey_apply` — the operations undo each other
- `exists_signature_iff` — a key signs messages exactly if it is large enough
- `IsGenuine.signsFor` — signatures of a genuine pair are accepted
- `isGenuine_mersennePair` — there is a genuine pair
-/

namespace GridAccess.Crypto

/-! ## Numbers and their bytes -/

theorem natOfLittle_lt (bytes : List UInt8) : natOfLittle bytes < 256 ^ bytes.length := by
  induction bytes with
  | nil => simp [natOfLittle]
  | cons b bytes ih =>
    have hb := b.toNat_lt
    rw [natOfLittle, List.length_cons, pow_succ]
    omega

theorem littleOfNat_natOfLittle (bytes : List UInt8) :
    littleOfNat bytes.length (natOfLittle bytes) = bytes := by
  induction bytes with
  | nil => rfl
  | cons b bytes ih =>
    have hb := b.toNat_lt
    have hmod : (b.toNat + 256 * natOfLittle bytes) % 256 = b.toNat := by omega
    have hdiv : (b.toNat + 256 * natOfLittle bytes) / 256 = natOfLittle bytes := by omega
    rw [List.length_cons, natOfLittle, littleOfNat, hmod, hdiv, ih, UInt8.ofNat_toNat]

theorem bigOfNat_natOfBig (bytes : List UInt8) :
    bigOfNat bytes.length (natOfBig bytes) = bytes := by
  rw [bigOfNat, natOfBig, ← List.length_reverse, littleOfNat_natOfLittle, List.reverse_reverse]

theorem natOfBig_zero_cons (bytes : List UInt8) : natOfBig (0 :: bytes) = natOfBig bytes := by
  have hend : ∀ bytes : List UInt8, natOfLittle (bytes ++ [0]) = natOfLittle bytes := by
    intro bytes
    induction bytes with
    | nil => rfl
    | cons b bytes ih => rw [List.cons_append, natOfLittle, natOfLittle, ih]
  rw [natOfBig, List.reverse_cons, hend, natOfBig]

theorem natOfBig_bigOfNat_of_lt {count n : Nat} (h : n < 256 ^ count) :
    natOfBig (bigOfNat count n) = n :=
  natOfBig_bigOfNat h

namespace RsaPublicKey

variable {key : RsaPublicKey}

/-- The size of a key is that of its modulus in bytes. -/
theorem modulus_bounds (h : key.modulus ≠ 0) :
    256 ^ (key.size - 1) ≤ key.modulus ∧ key.modulus < 256 ^ key.size := by
  have hsize : key.size = (key.modulus.log2 + 8) / 8 := by
    rw [size, bitLength, if_neg h]
  have hpow : ∀ k : Nat, 256 ^ k = 2 ^ (8 * k) := by
    intro k
    rw [pow_mul]
    rfl
  refine ⟨?_, ?_⟩
  · calc 256 ^ (key.size - 1) = 2 ^ (8 * (key.size - 1)) := hpow _
      _ ≤ 2 ^ key.modulus.log2 := Nat.pow_le_pow_right (by decide) (by omega)
      _ ≤ key.modulus := Nat.log2_self_le h
  · calc key.modulus < 2 ^ (key.modulus.log2 + 1) := Nat.lt_log2_self
      _ ≤ 2 ^ (8 * key.size) := Nat.pow_le_pow_right (by decide) (by omega)
      _ = 256 ^ key.size := (hpow _).symm

/-- A block of the size of the key that starts with a zero is below the modulus. -/
theorem natOfBig_lt_modulus (h : key.modulus ≠ 0) {bytes : List UInt8}
    (hlength : bytes.length + 1 = key.size) : natOfBig (0 :: bytes) < key.modulus := by
  have hbytes : natOfBig bytes < 256 ^ bytes.length := by
    have := natOfLittle_lt bytes.reverse
    rwa [List.length_reverse] at this
  have hexp : key.size - 1 = bytes.length := by omega
  rw [natOfBig_zero_cons]
  calc natOfBig bytes < 256 ^ bytes.length := hbytes
    _ = 256 ^ (key.size - 1) := by rw [hexp]
    _ ≤ key.modulus := (modulus_bounds h).1

end RsaPublicKey

/-! ## The two operations -/

/-- A power with an exponent that is one modulo a prime less one is the number itself. -/
theorem pow_modEq_self {prime : Nat} (hprime : prime.Prime) {exponent : Nat}
    (hpos : 1 ≤ exponent) (hdvd : prime - 1 ∣ exponent - 1) (n : Nat) :
    n ^ exponent ≡ n [MOD prime] := by
  have : Fact prime.Prime := ⟨hprime⟩
  rw [← ZMod.natCast_eq_natCast_iff]
  push_cast
  obtain ⟨times, htimes⟩ := hdvd
  have hexp : exponent = (prime - 1) * times + 1 := by omega
  -- Fermat's theorem leaves out the multiples of the prime, for which both sides are zero.
  by_cases hzero : (n : ZMod prime) = 0
  · rw [hzero, zero_pow (by omega)]
  · rw [hexp, pow_succ, pow_mul, ZMod.pow_card_sub_one_eq_one hzero, one_pow, one_mul]

namespace RsaPrivateKey

variable {key : RsaPrivateKey}

/-- The modulus is the product of two distinct primes, and the exponents undo each other. -/
structure IsGenuine (key : RsaPrivateKey) : Prop where
  isSound : key.isSound = true
  firstPrime : key.firstPrime.Prime
  secondPrime : key.secondPrime.Prime
  distinct : key.firstPrime ≠ key.secondPrime

/-- A public key accepts the signatures made with a private key. -/
def SignsFor (key : RsaPrivateKey) (publicKey : RsaPublicKey) : Prop :=
  ∀ digest message signature, key.sign digest message = .ok signature →
    publicKey.verify digest message signature = .ok ()

namespace IsGenuine

theorem mul_eq_modulus (h : key.IsGenuine) :
    key.firstPrime * key.secondPrime = key.publicKey.modulus := by
  have hsound := h.isSound
  simp only [RsaPrivateKey.isSound, Bool.and_eq_true, beq_iff_eq] at hsound
  exact hsound.1.1.2

theorem modulus_ne_zero (h : key.IsGenuine) : key.publicKey.modulus ≠ 0 := by
  rw [← h.mul_eq_modulus]
  exact mul_ne_zero h.firstPrime.ne_zero h.secondPrime.ne_zero

/-- Both exponents together change no number modulo the modulus. -/
theorem pow_mul_modEq (h : key.IsGenuine) (n : Nat) :
    n ^ (key.publicKey.exponent * key.exponent) ≡ n [MOD key.publicKey.modulus] := by
  have hsound := h.isSound
  simp only [RsaPrivateKey.isSound, isInverse, Bool.and_eq_true, beq_iff_eq,
    decide_eq_true_eq] at hsound
  obtain ⟨⟨-, hpos, hfirst⟩, -, hsecond⟩ := hsound
  have hcoprime : Nat.Coprime key.firstPrime key.secondPrime :=
    (Nat.coprime_primes h.firstPrime h.secondPrime).2 h.distinct
  rw [← h.mul_eq_modulus]
  apply (Nat.modEq_and_modEq_iff_modEq_mul hcoprime).1
  refine ⟨?_, ?_⟩
  · exact pow_modEq_self h.firstPrime hpos (Nat.dvd_of_mod_eq_zero hfirst) n
  · exact pow_modEq_self h.secondPrime hpos (Nat.dvd_of_mod_eq_zero hsecond) n

theorem publicKey_apply_apply (h : key.IsGenuine) {n : Nat} (hn : n < key.publicKey.modulus) :
    key.publicKey.apply (key.apply n) = n := by
  have hpow : (n ^ key.exponent) ^ key.publicKey.exponent =
      n ^ (key.publicKey.exponent * key.exponent) := by
    rw [← pow_mul, mul_comm]
  rw [RsaPublicKey.apply, apply, powMod_eq, powMod_eq]
  show (n ^ key.exponent % key.publicKey.modulus) ^ key.publicKey.exponent %
    key.publicKey.modulus = n
  rw [← Nat.pow_mod, hpow, h.pow_mul_modEq n, Nat.mod_eq_of_lt hn]

theorem apply_publicKey_apply (h : key.IsGenuine) {n : Nat} (hn : n < key.publicKey.modulus) :
    key.apply (key.publicKey.apply n) = n := by
  rw [RsaPublicKey.apply, apply, powMod_eq, powMod_eq]
  show (n ^ key.publicKey.exponent % key.publicKey.modulus) ^ key.exponent %
    key.publicKey.modulus = n
  rw [← Nat.pow_mod, ← pow_mul, h.pow_mul_modEq n, Nat.mod_eq_of_lt hn]

theorem apply_lt (h : key.IsGenuine) (n : Nat) : key.apply n < key.publicKey.modulus := by
  rw [apply, powMod_eq]
  exact Nat.mod_lt _ (Nat.pos_of_ne_zero h.modulus_ne_zero)

theorem publicKey_apply_lt (h : key.IsGenuine) (n : Nat) :
    key.publicKey.apply n < key.publicKey.modulus := by
  rw [RsaPublicKey.apply, powMod_eq]
  exact Nat.mod_lt _ (Nat.pos_of_ne_zero h.modulus_ne_zero)

end IsGenuine

end RsaPrivateKey

/-! ## Signatures -/

theorem length_flatMap_of_forall {α : Type} {f : α → List UInt8} {size : Nat}
    (h : ∀ a, (f a).length = size) (items : List α) :
    (items.flatMap f).length = items.length * size := by
  induction items with
  | nil => simp
  | cons a items ih =>
    rw [List.flatMap_cons, List.length_append, h, ih, List.length_cons]
    ring

/-- A hash has the size of its function, if the eight words of the chain have so many bytes. -/
theorem Sha2.length_hash {α : Type} [Add α] [XorOp α] [AndOp α] [Complement α]
    (function : Sha2 α) (h : function.hashSize ≤ 8 * function.wordSize) (message : List UInt8) :
    (function.hash message).length = function.hashSize := by
  simp only [Sha2.hash, List.length_take,
    length_flatMap_of_forall (fun word => length_bigOfNat _ (function.toNat word)), Chain.toList,
    List.length_cons, List.length_nil]
  omega

@[simp] theorem length_sha256 (message : List UInt8) : (sha256 message).length = 32 :=
  Sha256.function.length_hash (by decide) message

@[simp] theorem length_sha384 (message : List UInt8) : (sha384 message).length = 48 :=
  Sha384.function.length_hash (by decide) message

/-- The least size of a key that signs with a hash function: its block holds the hash with its name,
eight filling bytes and three more. -/
def SignatureDigest.leastSize : SignatureDigest → Nat
  | sha256 => 62
  | sha384 => 78

theorem SignatureDigest.length_content (digest : SignatureDigest) (message : List UInt8) :
    (digest.label ++ digest.hash message).length + 11 = digest.leastSize := by
  cases digest with
  | sha256 => simp [label, hash, leastSize]
  | sha384 => simp [label, hash, leastSize]

theorem RsaPrivateKey.sign_eq_error_iff {key : RsaPrivateKey} {digest : SignatureDigest}
    {message : List UInt8} {e : SignatureError} : key.sign digest message = .error e ↔
      e = .signingFailed ∧ key.publicKey.size < digest.leastSize := by
  simp only [sign, signatureBlock?, digest.length_content]
  by_cases hsize : key.publicKey.size < digest.leastSize
  · simp [hsize, eq_comm]
  · simp [hsize]

/-- A key signs messages exactly if it is large enough for the hash function. -/
theorem RsaPrivateKey.exists_signature_iff {key : RsaPrivateKey} {digest : SignatureDigest}
    {message : List UInt8} : (∃ signature, key.sign digest message = .ok signature) ↔
      digest.leastSize ≤ key.publicKey.size := by
  rw [← Nat.not_lt]
  constructor
  · rintro ⟨signature, hsign⟩ hsize
    rw [sign_eq_error_iff.2 ⟨rfl, hsize⟩] at hsign
    cases hsign
  · intro hsize
    cases hsign : key.sign digest message with
    | ok signature => exact ⟨signature, rfl⟩
    | error e => exact absurd (sign_eq_error_iff.1 hsign).2 hsize

/-- A key that is large enough for the hash functions signs every message. -/
theorem RsaPrivateKey.exists_signature {key : RsaPrivateKey} (h : 78 ≤ key.publicKey.size)
    (digest : SignatureDigest) (message : List UInt8) :
    ∃ signature, key.sign digest message = .ok signature := by
  have hleast : digest.leastSize ≤ 78 := by cases digest <;> decide
  exact exists_signature_iff.2 (Nat.le_trans hleast h)

/-- The shorter hash fits in shorter keys. -/
theorem RsaPrivateKey.exists_signature_sha256 {key : RsaPrivateKey} (h : 62 ≤ key.publicKey.size)
    (message : List UInt8) : ∃ signature, key.sign .sha256 message = .ok signature :=
  exists_signature_iff.2 h

/-- The block of a message is a zero and further bytes, of the size of the key. -/
theorem signatureBlock?_eq_some {size : Nat} {digest : SignatureDigest} {message block : List UInt8}
    (h : signatureBlock? size digest message = some block) :
    ∃ rest, block = 0 :: rest ∧ rest.length + 1 = size := by
  simp only [signatureBlock?] at h
  split at h
  · cases h
  · next hsize =>
    cases h
    refine ⟨0x01 :: List.replicate (size - (digest.label ++ digest.hash message).length - 3) 0xFF ++
      0x00 :: (digest.label ++ digest.hash message), rfl, ?_⟩
    simp only [List.length_cons, List.length_append, List.length_replicate] at hsize ⊢
    omega

/-- The public half of a genuine pair accepts the signatures made with the private half. -/
theorem RsaPrivateKey.IsGenuine.signsFor {key : RsaPrivateKey} (h : key.IsGenuine) :
    key.SignsFor key.publicKey := by
  intro digest message signature hsign
  rw [RsaPrivateKey.sign] at hsign
  cases hblock : signatureBlock? key.publicKey.size digest message with
  | none =>
    rw [hblock] at hsign
    cases hsign
  | some block =>
    rw [hblock] at hsign
    cases hsign
    obtain ⟨rest, hrest, hlength⟩ := signatureBlock?_eq_some hblock
    -- The zero in front keeps the block below the modulus, so that the operations undo each other.
    have hlt : natOfBig block < key.publicKey.modulus := by
      rw [hrest]
      exact RsaPublicKey.natOfBig_lt_modulus h.modulus_ne_zero hlength
    have happly : key.apply (natOfBig block) < 256 ^ key.publicKey.size :=
      (h.apply_lt _).trans (RsaPublicKey.modulus_bounds h.modulus_ne_zero).2
    have hsize : block.length = key.publicKey.size := by
      rw [hrest, List.length_cons, hlength]
    have hblockback : bigOfNat key.publicKey.size (natOfBig block) = block := by
      rw [← hsize, bigOfNat_natOfBig]
    have hverifies : key.publicKey.verifies digest message
        (bigOfNat key.publicKey.size (key.apply (natOfBig block))) = true := by
      simp only [RsaPublicKey.verifies, hblock, length_bigOfNat, natOfBig_bigOfNat_of_lt happly,
        h.publicKey_apply_apply hlt, hblockback, h.apply_lt, beq_self_eq_true, decide_true,
        Bool.and_self]
    rw [RsaPublicKey.verify, if_pos hverifies]

/-! ## A pair -/

/-- A pair of two Mersenne primes, with the usual public exponent. -/
def mersennePair : RsaPrivateKey where
  publicKey := ⟨mersenne 521 * mersenne 2203, 65537⟩
  exponent := (1 + 33256 * ((mersenne 521 - 1) * (mersenne 2203 - 1))) / 65537
  firstPrime := mersenne 521
  secondPrime := mersenne 2203

theorem size_mersennePair : mersennePair.publicKey.size = 341 := by
  decide +kernel

theorem isGenuine_mersennePair : mersennePair.IsGenuine where
  isSound := by decide +kernel
  firstPrime := lucas_lehmer_sufficiency 521 (by decide) (by norm_num)
  secondPrime := lucas_lehmer_sufficiency 2203 (by decide) (by norm_num)
  distinct := by
    intro heq
    have hexp := strictMono_mersenne.injective heq
    cases hexp

end GridAccess.Crypto
