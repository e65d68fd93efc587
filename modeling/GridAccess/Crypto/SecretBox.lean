import GridAccess.Crypto.ChaCha
import GridAccess.Crypto.Poly1305

/-!
# Authenticated encryption

Bytes are encrypted by the stream cipher under a key made from the key and the first part of a nonce
of 24 bytes. A tag of the encrypted bytes follows them, made with the first block of the key stream.

## Main definitions

- `secretBox` — bytes encrypted, with their tag
- `openSecretBox?` — the bytes encrypted, if the tag is right
-/

namespace GridAccess.Crypto

def nonceSize : Nat := 24

def tagSize : Nat := 16

/-- Zeros up to the next multiple of sixteen bytes. -/
def zerosAfter (length : Nat) : List UInt8 :=
  List.replicate ((16 - length % 16) % 16) 0

/-- The tag of encrypted bytes: they are padded, and followed by the number of additional bytes,
which is zero, and their own number. -/
def boxTag (key nonce encrypted : List UInt8) : List UInt8 :=
  let message := encrypted ++ zerosAfter encrypted.length ++ littleOfNat 8 0 ++
    littleOfNat 8 encrypted.length
  poly1305 ((chachaBlock key nonce 0).take 32) message

/-- The key of a stream and its shorter nonce. -/
def streamKey (key nonce : List UInt8) : List UInt8 × List UInt8 :=
  (chachaDerive key (nonce.take 16), List.replicate 4 0 ++ nonce.drop 16)

/-- Bytes encrypted under a key and a nonce, with their tag. -/
def secretBox (key nonce plain : List UInt8) : List UInt8 :=
  let (key, nonce) := streamKey key nonce
  let encrypted := chachaApply key nonce 1 plain
  encrypted ++ boxTag key nonce encrypted

/-- The bytes that were encrypted, if their tag is right. -/
def openSecretBox? (key nonce box : List UInt8) : Option (List UInt8) :=
  let (key, nonce) := streamKey key nonce
  let encrypted := box.take (box.length - tagSize)
  let tag := box.drop (box.length - tagSize)
  if tagSize ≤ box.length ∧ boxTag key nonce encrypted = tag then
    some (chachaApply key nonce 1 encrypted)
  else none

end GridAccess.Crypto
