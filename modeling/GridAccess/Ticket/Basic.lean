import GridAccess.Crypto.Hybrid
import GridAccess.Crypto.KeyRing
import GridAccess.Crypto.Signature
import GridAccess.Envelope.Basic
import GridAccess.Storage.Element
import GridAccess.Ticket.Settings

/-!
# Tickets

A ticket is an envelope made safe for the way through the client's hands to the storage element:
signed, or signed and encrypted, or as a bearer token.

## Main definitions

- `Ticket` — the text handed out, its kind and when it expires
- `TicketRequest` — when a ticket is issued, and to whom
- `TicketRandomness` — what is chosen at random for a ticket
- `TicketIssuer` — the keys and settings that tickets are made with
- `SealError` — why no ticket was made
- `expiry?` — the end of a lifetime

## Main statements

- `expiry?_eq_some_iff` — the end of a lifetime is the exact sum, if it is a 64-bit number
-/

namespace GridAccess

open Crypto

/-- A ticket as it is handed out. Encrypted tickets do not expire. -/
structure Ticket where
  policy : TicketPolicy
  text : String
  expires : Option UInt64
  deriving DecidableEq, Repr

/-- When a ticket is issued, in seconds since the Unix epoch, and the principal it is for. -/
structure TicketRequest where
  issued : UInt64
  subject : String
  deriving DecidableEq, Repr

/-- What is chosen at random for a ticket: for the encryption, and the identifier of a token. -/
structure TicketRandomness where
  encryption : HybridRandomness
  tokenId : Guid
  deriving DecidableEq, Repr

/-- The keys and the settings that tickets are made with. -/
structure TicketIssuer where
  keys : KeyRing
  settings : TicketSettings
  deriving DecidableEq, Repr

/-- Why no ticket was made. An expiry that is not a 64-bit number is not a fault of one envelope: it
ends whatever the ticket was made for. -/
inductive SealError where
  | signature (error : SignatureError)
  | cipher (error : CipherError)
  | missingField (key : EnvelopeKey)
  | expiryOverflow
  deriving DecidableEq, Repr

/-- The end of a lifetime, if it is a 64-bit number. -/
def expiry? (issued lifetime : UInt64) : Option UInt64 :=
  if issued.toNat + lifetime.toNat < UInt64.size then some (issued + lifetime) else none

/-- The bytes of a text that is signed or encrypted. -/
def bytesOfChars (text : List Char) : List UInt8 :=
  Text.Utf8.encode (String.ofList text)

/-- The end of a lifetime is the exact sum. -/
theorem expiry?_eq_some_iff {issued lifetime expires : UInt64} :
    expiry? issued lifetime = some expires ↔
      expires.toNat = issued.toNat + lifetime.toNat := by
  unfold expiry?
  constructor
  · intro h
    split at h
    · next hlt =>
      cases h
      rw [UInt64.toNat_add, Nat.mod_eq_of_lt hlt]
    · cases h
  · intro h
    have hlt : issued.toNat + lifetime.toNat < UInt64.size := h ▸ expires.toNat_lt
    rw [if_pos hlt]
    congr 1
    apply UInt64.toNat_inj.1
    rw [UInt64.toNat_add, Nat.mod_eq_of_lt hlt, h]

def SealError.message : SealError → String
  | .signature error => error.message
  | .cipher error => error.message
  | .missingField key => s!"envelope has no '{key.name}' field"
  | .expiryOverflow => "attempt to add with overflow"

end GridAccess
