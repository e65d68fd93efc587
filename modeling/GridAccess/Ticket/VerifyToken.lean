import GridAccess.Json.Reader
import GridAccess.Ticket.Bearer
import GridAccess.Ticket.TokenHeader
import GridAccess.Ticket.Verify

/-!
# Checking bearer tokens

A token is accepted if its header names the right algorithm, its signature is right, it is valid at
the time, and its issuer and its audience are those expected. Clocks may be a minute apart. No
signature is right for a key whose modulus is too short or too long.

## Main definitions

- `tokenParts` — the three parts of a token
- `RsaPublicKey.isTokenKey` — whether the size of a key is right for tokens
- `checkClaims` — the conditions on the claims
- `TicketIssuer.verifyToken` — check a token
-/

namespace GridAccess

open Crypto Text

/-- The message of a token, which the signature covers, its header, its claims and its signature. The
parts are divided by the last two dots. -/
structure TokenParts where
  message : List Char
  header : List Char
  claims : List Char
  signature : List Char
  deriving DecidableEq, Repr

def tokenParts (token : List Char) : Except TokenFault TokenParts :=
  match cutLast ['.'] token with
  | none => .error .malformed
  | some (message, signature) =>
    match cutLast ['.'] message with
    | none => .error .malformed
    | some (header, claims) => .ok ⟨message, header, claims, signature⟩

def partBytes (part : List Char) : Except TokenFault (List UInt8) :=
  match Base64.decodeUrl? part with
  | some bytes => .ok bytes
  | none => .error .invalidBase64

/-- The value that the data in a part stands for. -/
def partData {α : Type} (ofData? : Data → Option α) (part : List Char) : Except TokenFault α := do
  let bytes ← partBytes part
  match (Json.parse? bytes).bind ofData? with
  | some a => return a
  | none => .error .invalidJson

def claimsOfData? : Data → Option TokenClaims
  | .table fields => TokenClaims.ofData? (.table fields)
  | _ => none

/-- Whether signatures of tokens are checked with a key: its modulus has 2048 to 8192 bits, counted in
whole bytes. -/
def Crypto.RsaPublicKey.isTokenKey (key : RsaPublicKey) : Bool :=
  2048 ≤ 8 * key.size && 8 * key.size ≤ 8192

/-- How far clocks may be apart, in seconds. -/
def clockLeeway : Nat := 60

/-- Check when and for whom a token is valid. -/
def checkClaims (issuer audience : String) (now : UInt64) (claims : TokenClaims) :
    Except TokenFault TokenClaims :=
  if claims.expires.toNat + clockLeeway < now.toNat then .error .expired
  else if now.toNat + clockLeeway < claims.notBefore.toNat then .error .immature
  else if claims.issuer ≠ issuer then .error .wrongIssuer
  else if claims.audience ≠ audience then .error .wrongAudience
  else .ok claims

/-- The claims of a token signed by this service for an audience, at some time. -/
def TicketIssuer.verifyToken (issuer : TicketIssuer) (token audience : String) (now : UInt64) :
    Except TokenFault TokenClaims := do
  let parts ← tokenParts token.toList
  let algorithm ← partData TokenHeader.algorithm? parts.header
  if algorithm ≠ "RS256" then .error .wrongAlgorithm
  else
    let signature ← partBytes parts.signature
    let key := issuer.keys.signingPublic
    if key.isTokenKey && key.verifies .sha256 (bytesOfChars parts.message) signature then
      let claims ← partData claimsOfData? parts.claims
      checkClaims issuer.settings.tokenIssuer audience now claims
    else .error .wrongSignature

end GridAccess
