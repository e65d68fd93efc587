import GridAccess.Text.Base64
import GridAccess.Ticket.Basic

/-!
# Encrypted tickets

An encrypted ticket is a markup envelope with a signature behind it, encrypted to the storage
elements. The wrapped session key and the encrypted bytes stand between lines of their own. The
markup form has no field for an expiry.

## Main definitions

- `signedMarkup` — an envelope with its signature
- `armour` — the text of an encrypted ticket
- `TicketIssuer.encrypted` — the encrypted ticket of an envelope
-/

namespace GridAccess

open Crypto Text

def signatureBegin : List Char := "-----BEGIN SIGNATURE-----".toList

def signatureEnd : List Char := "-----END SIGNATURE-----".toList

def cipherBegin : List Char := "-----BEGIN SEALED CIPHER-----".toList

def cipherEnd : List Char := "-----END SEALED CIPHER-----".toList

def bodyBegin : List Char := "-----BEGIN SEALED ENVELOPE-----".toList

def bodyEnd : List Char := "-----END SEALED ENVELOPE-----".toList

/-- Bytes in base64 between two lines, with a line break at the end. -/
def armourBlock (first last : List Char) (bytes : List UInt8) : List Char :=
  first ++ '\n' :: Base64.encodePadded bytes ++ '\n' :: last ++ ['\n']

/-- A text with its signature behind it. -/
def signedMarkup (text : List Char) (signature : List UInt8) : List Char :=
  text ++ '\n' :: armourBlock signatureBegin signatureEnd signature

def armour (ciphertext : HybridCiphertext) : List Char :=
  armourBlock cipherBegin cipherEnd ciphertext.wrappedKey ++
    armourBlock bodyBegin bodyEnd ciphertext.body

def TicketIssuer.encrypted (issuer : TicketIssuer) (random : HybridRandomness)
    (envelope : Envelope) : Except SealError Ticket :=
  match issuer.keys.signing.sign .sha384 (bytesOfChars envelope.markup) with
  | .error e => .error (.signature e)
  | .ok signature =>
    let text := signedMarkup envelope.markup signature
    match issuer.keys.element.encrypt random (bytesOfChars text) with
    | .ok ciphertext => .ok ⟨.encrypted, String.ofList (armour ciphertext), none⟩
    | .error e => .error (.cipher e)

end GridAccess
