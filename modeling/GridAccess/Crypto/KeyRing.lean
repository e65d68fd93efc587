import GridAccess.Crypto.KeyText

/-!
# The keys of a service

Tickets are signed with the service's own key and encrypted to the storage elements. Whoever
receives encrypted tickets holds the private key of the storage elements as well.

## Main definitions

- `KeyRing` — the keys at hand
- `KeyRing.elementPrivate` — the private key of the storage elements, if it is there
- `KeyFault` — why keys cannot be used
-/

namespace GridAccess.Crypto

/-- The service's own key, and the keys of the storage elements. -/
structure KeyRing where
  signing : RsaPrivateKey
  element : RsaPublicKey
  elementPrivate? : Option RsaPrivateKey
  deriving DecidableEq, Repr

/-- Why keys cannot be used: a file that cannot be read, a file that holds no key, a public key that
belongs to another private key, or a private key that is not there. -/
inductive KeyFault where
  | unreadable (path : String)
  | invalid
  | mismatch (path : String)
  | noElementPrivate
  deriving DecidableEq, Repr

namespace KeyRing

/-- The public half of the service's own key. -/
def signingPublic (keys : KeyRing) : RsaPublicKey :=
  keys.signing.publicKey

def elementPrivate (keys : KeyRing) : Except KeyFault RsaPrivateKey :=
  match keys.elementPrivate? with
  | some key => .ok key
  | none => .error .noElementPrivate

end KeyRing

/-- The wording of the fault, where it has one. -/
def KeyFault.message : KeyFault → Option String
  | .unreadable _ => none
  | .invalid => none
  | .mismatch path => some s!"public key {path} does not match the configured private key"
  | .noElementPrivate => some "no storage-element private key configured"

end GridAccess.Crypto
