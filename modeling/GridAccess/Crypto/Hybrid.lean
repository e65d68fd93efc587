import GridAccess.Crypto.Oaep
import GridAccess.Crypto.SecretBox

/-!
# Encryption to a public key

A text of any length is encrypted under a fresh session key, and the session key is wrapped for the
owner of the private key. Randomness is an argument, so that all of this is a function.

## Main definitions

- `HybridCiphertext` — the wrapped session key and the encrypted bytes
- `HybridRandomness` — the session key, the nonce and the seed of the wrapping
- `RsaPublicKey.encrypt`, `RsaPrivateKey.decrypt` — the two directions
-/

namespace GridAccess.Crypto

/-- The number of bytes of a session key. -/
def sessionKeySize : Nat := 32

/-- A wrapped session key, and the bytes encrypted under it with the nonce in front. -/
structure HybridCiphertext where
  wrappedKey : List UInt8
  body : List UInt8
  deriving DecidableEq, Repr

/-- What has to be chosen at random for one encryption. -/
structure HybridRandomness where
  sessionKey : List UInt8
  nonce : List UInt8
  seed : List UInt8
  deriving DecidableEq, Repr

/-- Why encryption or decryption failed. -/
inductive CipherError where
  | keyWrap
  | keyUnwrap
  | decrypt
  | truncated
  deriving DecidableEq, Repr

def RsaPublicKey.encrypt (key : RsaPublicKey) (random : HybridRandomness) (plain : List UInt8) :
    Except CipherError HybridCiphertext :=
  match key.wrap? random.seed random.sessionKey with
  | none => .error .keyWrap
  | some wrapped =>
    .ok ⟨wrapped, random.nonce ++ secretBox random.sessionKey random.nonce plain⟩

/-- The bytes that were encrypted to a key. -/
def RsaPrivateKey.decrypt (key : RsaPrivateKey) (ciphertext : HybridCiphertext) :
    Except CipherError (List UInt8) :=
  match key.unwrap? ciphertext.wrappedKey with
  | none => .error .keyUnwrap
  | some sessionKey =>
    if sessionKey.length ≠ sessionKeySize then .error .keyUnwrap
    else if ciphertext.body.length < nonceSize then .error .truncated
    else
      let nonce := ciphertext.body.take nonceSize
      match openSecretBox? sessionKey nonce (ciphertext.body.drop nonceSize) with
      | some plain => .ok plain
      | none => .error .decrypt

def CipherError.message : CipherError → String
  | .keyWrap => "could not wrap session key"
  | .keyUnwrap => "could not unwrap session key"
  | .decrypt => "could not decrypt envelope"
  | .truncated => "ciphertext is shorter than the nonce"

end GridAccess.Crypto
