import GridAccess.Text.Base64
import GridAccess.Ticket.Basic

/-!
# Signed tickets

A signed ticket is a delimited envelope that says who issued it and when it expires. The list of keys
names these fields as well, and the signature covers all pairs up to the expiry.

## Main definitions

- `signedPairs`, `signedText` — what the signature covers
- `TicketIssuer.signed` — the signed ticket of an envelope
-/

namespace GridAccess

open Crypto Text

/-- The keys added by the issuer, in their order. -/
def issuerKeys : List String := ["issuer", "issued", "expires"]

def signatureKey : String := "signature"

/-- The list of keys with those added by the issuer. -/
def signedKeyList (envelope : Envelope) : String :=
  "-".intercalate (envelope.keyList :: issuerKeys)

def timeText (time : UInt64) : String :=
  String.ofList (Decimal.digits time.toNat)

/-- The pairs covered by the signature. -/
def signedPairs (envelope : Envelope) (issuer : String) (issued expires : UInt64) :
    List (String × String) :=
  envelope.pairs ++ [(Envelope.keyListName, signedKeyList envelope), ("issuer", issuer),
    ("issued", timeText issued), ("expires", timeText expires)]

/-- The text covered by the signature. -/
def signedText (envelope : Envelope) (issuer : String) (issued expires : UInt64) : List Char :=
  Delimited.write (signedPairs envelope issuer issued expires)

/-- A signature at the end of the text it covers. -/
def withSignature (text : List Char) (signature : List UInt8) : String :=
  String.ofList (text ++ '&' :: signatureKey.toList ++ '=' :: Base64.encodePadded signature)

def TicketIssuer.signed (issuer : TicketIssuer) (request : TicketRequest) (envelope : Envelope) :
    Except SealError Ticket :=
  match expiry? request.issued issuer.settings.lifetime with
  | none => .error .expiryOverflow
  | some expires =>
    let text := signedText envelope issuer.settings.issuer request.issued expires
    match issuer.keys.signing.sign .sha384 (bytesOfChars text) with
    | .ok signature => .ok ⟨.signed, withSignature text signature, some expires⟩
    | .error e => .error (.signature e)

end GridAccess
