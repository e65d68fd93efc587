import GridAccess.Crypto.Rsa
import GridAccess.Crypto.Sha256

/-!
# Wrapping short secrets

A short secret is encrypted to a public key as one block. The secret is padded, masked by bytes
made from a random seed, and the seed is masked by bytes made from the result, so that nothing
shows before all of the block is known.

## Main definitions

- `mask` — bytes made from a seed
- `RsaPublicKey.wrap?` — a secret encrypted to a key
- `RsaPrivateKey.unwrap?` — the secret in an encrypted block
-/

namespace GridAccess.Crypto

/-- The size of a hash, and so of a seed. -/
def seedSize : Nat := 32

/-- So many bytes made from a seed: hashes of the seed with a counter behind it. -/
def mask (seed : List UInt8) (length : Nat) : List UInt8 :=
  let count := (length + seedSize - 1) / seedSize
  ((List.range count).flatMap fun counter => sha256 (seed ++ bigOfNat 4 counter)).take length

/-- What the padding of every secret starts with: the hash of an empty label. -/
def labelHash : List UInt8 := sha256 []

/-- A secret encrypted to a key with a random seed, unless it is too long. -/
def RsaPublicKey.wrap? (key : RsaPublicKey) (seed secret : List UInt8) : Option (List UInt8) :=
  if key.size < secret.length + 2 * seedSize + 2 then none
  else
    let zeros := key.size - secret.length - 2 * seedSize - 2
    let padded := labelHash ++ List.replicate zeros 0 ++ 0x01 :: secret
    let maskedPadded := xorBytes padded (mask seed padded.length)
    let maskedSeed := xorBytes seed (mask maskedPadded seedSize)
    let block := 0x00 :: maskedSeed ++ maskedPadded
    some (bigOfNat key.size (key.apply (natOfBig block)))

/-- The secret behind a padding: a hash, zeros and a one stand before it. -/
def unpad? (padded : List UInt8) : Option (List UInt8) :=
  if padded.take seedSize = labelHash then
    match (padded.drop seedSize).dropWhile (· == 0) with
    | 0x01 :: secret => some secret
    | _ => none
  else none

/-- The secret in an encrypted block. A block is a number below the modulus, so zeros in front of it do
not matter. -/
def RsaPrivateKey.unwrap? (key : RsaPrivateKey) (wrapped : List UInt8) : Option (List UInt8) :=
  let size := key.publicKey.size
  let n := natOfBig wrapped
  if n < key.publicKey.modulus ∧ 2 * seedSize + 2 ≤ size then
    match bigOfNat size (key.apply n) with
    | 0x00 :: block =>
      let maskedPadded := block.drop seedSize
      let seed := xorBytes (block.take seedSize) (mask maskedPadded seedSize)
      unpad? (xorBytes maskedPadded (mask seed maskedPadded.length))
    | _ => none
  else none

end GridAccess.Crypto
