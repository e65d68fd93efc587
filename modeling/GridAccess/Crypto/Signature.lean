import GridAccess.Crypto.Rsa
import GridAccess.Crypto.Sha256
import GridAccess.Crypto.Sha384

/-!
# Signatures

A message is signed by applying the private operation to a block that holds its hash: two bytes,
filling bytes up to the size of the key, a zero, the name of the hash function and the hash. The
block is determined by the message, so a signature is checked by building it again.

## Main definitions

- `SignatureDigest` — the hash functions used in signatures
- `signatureBlock?` — the block of a message
- `RsaPrivateKey.sign` — the signature of a message
- `RsaPublicKey.verifies`, `RsaPublicKey.verify` — whether a signature is that of a message
-/

namespace GridAccess.Crypto

/-- The hash functions used in signatures. -/
inductive SignatureDigest where
  | sha256
  | sha384
  deriving DecidableEq, Repr

namespace SignatureDigest

def hash : SignatureDigest → List UInt8 → List UInt8
  | sha256 => Crypto.sha256
  | sha384 => Crypto.sha384

/-- The bytes that name the function in front of the hash. -/
def label : SignatureDigest → List UInt8
  | sha256 => [0x30, 0x31, 0x30, 0x0D, 0x06, 0x09, 0x60, 0x86, 0x48, 0x01, 0x65, 0x03, 0x04, 0x02,
      0x01, 0x05, 0x00, 0x04, 0x20]
  | sha384 => [0x30, 0x41, 0x30, 0x0D, 0x06, 0x09, 0x60, 0x86, 0x48, 0x01, 0x65, 0x03, 0x04, 0x02,
      0x02, 0x05, 0x00, 0x04, 0x30]

end SignatureDigest

/-- Why a signature was not made or not accepted. -/
inductive SignatureError where
  | signingFailed
  | verificationFailed
  deriving DecidableEq, Repr

/-- The block of a message in `size` bytes, with at least eight filling bytes. -/
def signatureBlock? (size : Nat) (digest : SignatureDigest) (message : List UInt8) :
    Option (List UInt8) :=
  let content := digest.label ++ digest.hash message
  if size < content.length + 11 then none
  else some (0x00 :: 0x01 :: List.replicate (size - content.length - 3) 0xFF ++ 0x00 :: content)

/-- The signature of a message, unless the key is too small for the hash. -/
def RsaPrivateKey.sign (key : RsaPrivateKey) (digest : SignatureDigest) (message : List UInt8) :
    Except SignatureError (List UInt8) :=
  match signatureBlock? key.publicKey.size digest message with
  | some block => .ok (bigOfNat key.publicKey.size (key.apply (natOfBig block)))
  | none => .error .signingFailed

/-- Whether a signature is that of a message: it has the size of the key, is below the modulus, and
the public operation gives the block of the message. -/
def RsaPublicKey.verifies (key : RsaPublicKey) (digest : SignatureDigest)
    (message signature : List UInt8) : Bool :=
  match signatureBlock? key.size digest message with
  | some block =>
    signature.length == key.size && natOfBig signature < key.modulus &&
      bigOfNat key.size (key.apply (natOfBig signature)) == block
  | none => false

/-- Check that a signature is that of a message. -/
def RsaPublicKey.verify (key : RsaPublicKey) (digest : SignatureDigest)
    (message signature : List UInt8) : Except SignatureError Unit :=
  if key.verifies digest message signature then .ok () else .error .verificationFailed

def SignatureError.message : SignatureError → String
  | .signingFailed => "could not sign message"
  | .verificationFailed => "signature does not match"

end GridAccess.Crypto
