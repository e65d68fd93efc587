import GridAccess.Crypto.Octets
import GridAccess.Crypto.Power

/-!
# RSA

A key pair has a modulus that is the product of two primes. What is done with the exponent of one
half is undone with the exponent of the other.

## Main definitions

- `RsaPublicKey`, `RsaPrivateKey` — the two halves of a pair
- `RsaPublicKey.isSound`, `RsaPrivateKey.isSound` — the conditions on the numbers of a key
- `RsaPublicKey.apply`, `RsaPrivateKey.apply` — the two operations
- `RsaPublicKey.size` — the number of bytes of a block
-/

namespace GridAccess.Crypto

/-- The half of a pair that everyone may know. -/
structure RsaPublicKey where
  modulus : Nat
  exponent : Nat
  deriving DecidableEq, Repr

/-- The half of a pair that its owner keeps, with the public half and the two primes. -/
structure RsaPrivateKey where
  publicKey : RsaPublicKey
  exponent : Nat
  firstPrime : Nat
  secondPrime : Nat
  deriving DecidableEq, Repr

def bitLength (n : Nat) : Nat :=
  if n = 0 then 0 else n.log2 + 1

namespace RsaPublicKey

/-- The number of bytes of the modulus, and so of signatures and encrypted blocks. -/
def size (key : RsaPublicKey) : Nat :=
  (bitLength key.modulus + 7) / 8

/-- Whether the modulus is odd and greater than the exponent, and the exponent is odd, not one, and
below 2³³. -/
def isSound (key : RsaPublicKey) : Bool :=
  key.modulus % 2 == 1 && key.exponent < key.modulus && key.exponent % 2 == 1 &&
    2 ≤ key.exponent && key.exponent < 1 <<< 33

/-- Whether a key that stands alone is small enough to be used: its modulus has at most 4096
bits. -/
def isModest (key : RsaPublicKey) : Bool :=
  bitLength key.modulus ≤ 4096

/-- The public operation. -/
def apply (key : RsaPublicKey) (n : Nat) : Nat :=
  powMod n key.exponent key.modulus

end RsaPublicKey

namespace RsaPrivateKey

/-- Whether the product of the exponents is one modulo a prime less one. -/
def isInverse (key : RsaPrivateKey) (prime : Nat) : Bool :=
  let product := key.publicKey.exponent * key.exponent
  1 ≤ product && (product - 1) % (prime - 1) == 0

/-- Whether the public half is sound, the modulus is the product of the primes, and the exponents
undo each other. -/
def isSound (key : RsaPrivateKey) : Bool :=
  key.publicKey.isSound && key.firstPrime * key.secondPrime == key.publicKey.modulus &&
    key.isInverse key.firstPrime && key.isInverse key.secondPrime

/-- The private operation. -/
def apply (key : RsaPrivateKey) (n : Nat) : Nat :=
  powMod n key.exponent key.publicKey.modulus

end RsaPrivateKey

end GridAccess.Crypto
