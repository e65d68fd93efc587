import GridAccess.Crypto.Hybrid
import GridAccess.Proofs.Crypto.Rsa

/-!
# Decrypting what was encrypted

All parts of the encryption combine bytes with other bytes that both sides can make, and combining
twice gives the bytes back. The other bytes are made from seeds, keys and hashes of fixed sizes, so
that what matters about them is only how many there are.

## Main definitions

- `HybridRandomness.IsProper` — randomness of the right sizes
- `RsaPrivateKey.OpensFor` — a private key that decrypts what is encrypted to a public key
- `zeroRandomness` — randomness of the right sizes

## Main statements

- `xorBytes_xorBytes` — combining twice with the same bytes gives the bytes back
- `unwrap?_of_wrap?` — a wrapped secret is unwrapped
- `openSecretBox?_secretBox` — an authenticated text is read back
- `decrypt_of_encrypt`, `RsaPrivateKey.IsGenuine.opensFor` — what was encrypted to a genuine pair is
  decrypted
- `exists_ciphertext` — a key that is large enough encrypts every text
-/

namespace GridAccess.Crypto

/-! ## Sizes -/

@[simp] theorem length_chachaBlock (key nonce : List UInt8) (counter : Nat) :
    (chachaBlock key nonce counter).length = 64 := by
  have hrow : ∀ row : Row, row.bytes.length = 16 := by
    intro row
    rw [Row.bytes, length_flatMap_of_forall fun w : UInt32 => length_littleOfNat 4 w.toNat]
    rfl
  simp only [chachaBlock, Square.bytes, List.length_append, hrow]

@[simp] theorem length_mask (seed : List UInt8) (length : Nat) :
    (mask seed length).length = length := by
  simp only [mask, List.length_take, List.length_range, seedSize,
    length_flatMap_of_forall fun counter => length_sha256 (seed ++ bigOfNat 4 counter)]
  omega

@[simp] theorem length_boxTag (key nonce encrypted : List UInt8) :
    (boxTag key nonce encrypted).length = tagSize :=
  length_littleOfNat _ _

/-! ## Combining bytes -/

@[simp] theorem length_xorBytes (a b : List UInt8) :
    (xorBytes a b).length = min a.length b.length :=
  List.length_zipWith

theorem xorBytes_xorBytes {a b : List UInt8} (h : a.length ≤ b.length) :
    xorBytes (xorBytes a b) b = a := by
  induction a generalizing b with
  | nil => rfl
  | cons x a ih =>
    cases b with
    | nil => simp at h
    | cons y b =>
      have hrest : a.length ≤ b.length := by simpa using h
      have hcancel : x ^^^ y ^^^ y = x := by
        rw [UInt8.xor_assoc, UInt8.xor_self, UInt8.xor_zero]
      show (x ^^^ y ^^^ y) :: xorBytes (xorBytes a b) b = x :: a
      rw [hcancel, ih hrest]

/-! ## Wrapping -/

theorem unpad?_padded (zeros : Nat) (secret : List UInt8) :
    unpad? (labelHash ++ List.replicate zeros 0 ++ 0x01 :: secret) = some secret := by
  have hsize : labelHash.length = seedSize := length_sha256 []
  have htake : (labelHash ++ List.replicate zeros 0 ++ 0x01 :: secret).take seedSize =
      labelHash := by
    rw [← hsize, List.append_assoc, List.take_left]
  have hdrop : (labelHash ++ List.replicate zeros 0 ++ 0x01 :: secret).drop seedSize =
      List.replicate zeros 0 ++ 0x01 :: secret := by
    rw [← hsize, List.append_assoc, List.drop_left]
  have hzeros : (List.replicate zeros (0 : UInt8) ++ 0x01 :: secret).dropWhile (· == 0) =
      0x01 :: secret := by
    rw [List.dropWhile_append_of_pos]
    · rfl
    · intro b hb
      rw [List.eq_of_mem_replicate hb]
      rfl
  rw [unpad?, if_pos htake, hdrop, hzeros]
  rfl

/-- A secret that was wrapped for a genuine pair is unwrapped. -/
theorem unwrap?_of_wrap? {key : RsaPrivateKey} (h : key.IsGenuine)
    {seed secret wrapped : List UInt8} (hseed : seed.length = seedSize)
    (hwrap : key.publicKey.wrap? seed secret = some wrapped) :
    key.unwrap? wrapped = some secret := by
  simp only [RsaPublicKey.wrap?] at hwrap
  split at hwrap
  · cases hwrap
  next hsize =>
  set zeros := key.publicKey.size - secret.length - 2 * seedSize - 2
  set padded := labelHash ++ List.replicate zeros 0 ++ 0x01 :: secret with hpadded
  set maskedPadded := xorBytes padded (mask seed padded.length) with hmaskedPadded
  set maskedSeed := xorBytes seed (mask maskedPadded seedSize) with hmaskedSeed
  have hlabel : labelHash.length = seedSize := length_sha256 []
  have hpaddedLength : padded.length = seedSize + zeros + secret.length + 1 := by
    simp only [hpadded, List.length_append, List.length_replicate, List.length_cons, hlabel]
    omega
  have hmaskedPaddedLength : maskedPadded.length = padded.length := by
    simp [hmaskedPadded]
  have hmaskedSeedLength : maskedSeed.length = seedSize := by
    simp [hmaskedSeed, hseed]
  have hblockLength : (maskedSeed ++ maskedPadded).length + 1 = key.publicKey.size := by
    rw [List.length_append, hmaskedSeedLength, hmaskedPaddedLength, hpaddedLength]
    omega
  have hlt := RsaPublicKey.natOfBig_lt_modulus h.modulus_ne_zero hblockLength
  have hpublic : key.publicKey.apply (natOfBig (0 :: (maskedSeed ++ maskedPadded))) <
      key.publicKey.modulus :=
    h.publicKey_apply_lt _
  have hwrapped : natOfBig wrapped =
      key.publicKey.apply (natOfBig (0 :: (maskedSeed ++ maskedPadded))) := by
    cases hwrap
    exact natOfBig_bigOfNat_of_lt
      (hpublic.trans (RsaPublicKey.modulus_bounds h.modulus_ne_zero).2)
  have hblock : bigOfNat key.publicKey.size (natOfBig (0 :: (maskedSeed ++ maskedPadded))) =
      0 :: (maskedSeed ++ maskedPadded) := by
    rw [← hblockLength, ← List.length_cons, bigOfNat_natOfBig]
  have hdrop : (maskedSeed ++ maskedPadded).drop seedSize = maskedPadded := by
    rw [← hmaskedSeedLength, List.drop_left]
  have htake : (maskedSeed ++ maskedPadded).take seedSize = maskedSeed := by
    rw [← hmaskedSeedLength, List.take_left]
  -- The seed is unmasked with the masked secret, and then the secret with the seed.
  have hseedBack : xorBytes maskedSeed (mask maskedPadded seedSize) = seed :=
    xorBytes_xorBytes (by simp [hseed])
  have hpaddedBack : xorBytes maskedPadded (mask seed maskedPadded.length) = padded := by
    rw [hmaskedPaddedLength]
    exact xorBytes_xorBytes (by simp)
  have hbig : 2 * seedSize + 2 ≤ key.publicKey.size := by omega
  simp only [RsaPrivateKey.unwrap?, hwrapped]
  rw [if_pos ⟨hpublic, hbig⟩, h.apply_publicKey_apply hlt, hblock]
  simp only [hdrop, htake, hseedBack, hpaddedBack]
  exact unpad?_padded zeros secret

/-! ## Authenticated encryption -/

@[simp] theorem length_chachaApply (key nonce : List UInt8) (counter : Nat) (bytes : List UInt8) :
    (chachaApply key nonce counter bytes).length = bytes.length := by
  simp only [chachaApply, length_xorBytes, List.length_range,
    length_flatMap_of_forall fun i => length_chachaBlock key nonce (counter + i)]
  omega

theorem chachaApply_chachaApply (key nonce : List UInt8) (counter : Nat) (bytes : List UInt8) :
    chachaApply key nonce counter (chachaApply key nonce counter bytes) = bytes := by
  have hlength := length_chachaApply key nonce counter bytes
  rw [chachaApply, hlength, chachaApply]
  apply xorBytes_xorBytes
  simp only [List.length_range,
    length_flatMap_of_forall fun i => length_chachaBlock key nonce (counter + i)]
  omega

/-- An authenticated text is read back. -/
theorem openSecretBox?_secretBox (key nonce plain : List UInt8) :
    openSecretBox? key nonce (secretBox key nonce plain) = some plain := by
  let derived := (streamKey key nonce).1
  let short := (streamKey key nonce).2
  let encrypted := chachaApply derived short 1 plain
  let tag := boxTag derived short encrypted
  have hbox : secretBox key nonce plain = encrypted ++ tag := rfl
  have hlength : (encrypted ++ tag).length - tagSize = encrypted.length := by
    rw [List.length_append, length_boxTag]
    omega
  have hlong : tagSize ≤ (encrypted ++ tag).length := by
    rw [List.length_append, length_boxTag]
    omega
  have hback : chachaApply derived short 1 encrypted = plain :=
    chachaApply_chachaApply derived short 1 plain
  rw [hbox]
  unfold openSecretBox?
  simp only [hlength, List.take_left, List.drop_left]
  rw [if_pos ⟨hlong, rfl⟩]
  exact congrArg some hback

/-! ## Both together -/

/-- Randomness of the right sizes. -/
structure HybridRandomness.IsProper (random : HybridRandomness) : Prop where
  sessionKey : random.sessionKey.length = sessionKeySize
  nonce : random.nonce.length = nonceSize
  seed : random.seed.length = seedSize

/-- What was encrypted to a genuine pair is decrypted. -/
theorem decrypt_of_encrypt {key : RsaPrivateKey} (h : key.IsGenuine) {random : HybridRandomness}
    (hrandom : random.IsProper) {plain : List UInt8} {ciphertext : HybridCiphertext}
    (hencrypt : key.publicKey.encrypt random plain = .ok ciphertext) :
    key.decrypt ciphertext = .ok plain := by
  rw [RsaPublicKey.encrypt] at hencrypt
  cases hwrap : key.publicKey.wrap? random.seed random.sessionKey with
  | none =>
    rw [hwrap] at hencrypt
    cases hencrypt
  | some wrapped =>
    rw [hwrap] at hencrypt
    cases hencrypt
    have hunwrap := unwrap?_of_wrap? h hrandom.seed hwrap
    have htake : (random.nonce ++ secretBox random.sessionKey random.nonce plain).take nonceSize =
        random.nonce := by
      rw [← hrandom.nonce, List.take_left]
    have hdrop : (random.nonce ++ secretBox random.sessionKey random.nonce plain).drop nonceSize =
        secretBox random.sessionKey random.nonce plain := by
      rw [← hrandom.nonce, List.drop_left]
    have hlong : ¬(random.nonce ++ secretBox random.sessionKey random.nonce plain).length <
        nonceSize := by
      rw [List.length_append, hrandom.nonce]
      omega
    have hkeySize : ¬random.sessionKey.length ≠ sessionKeySize := not_not.2 hrandom.sessionKey
    simp only [RsaPrivateKey.decrypt, hunwrap]
    rw [if_neg hkeySize, if_neg hlong, htake, hdrop, openSecretBox?_secretBox]

/-- A private key decrypts what is encrypted to a public key. -/
def RsaPrivateKey.OpensFor (key : RsaPrivateKey) (publicKey : RsaPublicKey) : Prop :=
  ∀ random plain ciphertext, random.IsProper → publicKey.encrypt random plain = .ok ciphertext →
    key.decrypt ciphertext = .ok plain

/-- The private half of a genuine pair decrypts what is encrypted to the public half. -/
theorem RsaPrivateKey.IsGenuine.opensFor {key : RsaPrivateKey} (h : key.IsGenuine) :
    key.OpensFor key.publicKey := by
  intro random plain ciphertext hrandom hencrypt
  exact decrypt_of_encrypt h hrandom hencrypt

/-- A key that is large enough for a session key encrypts every text. -/
theorem exists_ciphertext {key : RsaPublicKey} (hsize : 98 ≤ key.size) {random : HybridRandomness}
    (hrandom : random.IsProper) (plain : List UInt8) :
    ∃ ciphertext, key.encrypt random plain = .ok ciphertext := by
  have hfits : ¬key.size < random.sessionKey.length + 2 * seedSize + 2 := by
    rw [hrandom.sessionKey, sessionKeySize, seedSize]
    omega
  simp only [RsaPublicKey.encrypt, RsaPublicKey.wrap?, if_neg hfits]
  exact ⟨_, rfl⟩

/-- Randomness of the right sizes, without any randomness. -/
def zeroRandomness : HybridRandomness :=
  ⟨List.replicate sessionKeySize 0, List.replicate nonceSize 0, List.replicate seedSize 0⟩

theorem isProper_zeroRandomness : zeroRandomness.IsProper :=
  ⟨List.length_replicate, List.length_replicate, List.length_replicate⟩

theorem exists_ciphertext_mersennePair (plain : List UInt8) :
    ∃ ciphertext, mersennePair.publicKey.encrypt zeroRandomness plain = .ok ciphertext := by
  have hsize : 98 ≤ mersennePair.publicKey.size := by
    rw [size_mersennePair]
    decide
  exact exists_ciphertext hsize isProper_zeroRandomness plain

end GridAccess.Crypto
