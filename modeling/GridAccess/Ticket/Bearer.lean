import GridAccess.Json.Writer
import GridAccess.Text.Base64
import GridAccess.Ticket.Basic
import GridAccess.Ticket.Claims

/-!
# Bearer tokens

A bearer token has three parts with dots between them: a fixed header, the claims, and a signature
over the first two. The scope permits the access on the storage path of the replica.

## Main definitions

- `TicketIssuer.claims` — the claims of the token of an envelope
- `tokenMessage` — the header and the claims, which the signature covers
- `TicketIssuer.token` — the bearer token of an envelope
-/

namespace GridAccess

open Crypto Text

def tokenHeader : List UInt8 :=
  Utf8.encode "\x7b\"typ\":\"JWT\",\"alg\":\"RS256\",\"wlcg.ver\":\"1.0\"\x7d"

/-- Who a token is for: the configured audience, or the storage element of the envelope. -/
def TicketIssuer.audience (issuer : TicketIssuer) (envelope : Envelope) :
    Except SealError String :=
  match issuer.settings.tokenAudience with
  | some audience => .ok audience
  | none =>
    match envelope.get? .se with
    | some name => .ok name
    | none => .error (.missingField .se)

/-- The claims of the token of an envelope. -/
def TicketIssuer.claims (issuer : TicketIssuer) (request : TicketRequest) (identifier : Guid)
    (envelope : Envelope) : Except SealError TokenClaims := do
  let location ←
    match envelope.get? .turl with
    | some location => .ok location
    | none => .error (.missingField .turl)
  let audience ← issuer.audience envelope
  match expiry? request.issued issuer.settings.tokenLifetime with
  | none => .error .expiryOverflow
  | some expires =>
    return {
      issuer := issuer.settings.tokenIssuer
      audience := audience
      subject := request.subject
      issued := request.issued
      notBefore := request.issued
      expires := expires
      identifier := identifier.text
      scope := TokenClaims.storageScope envelope.access.name (storagePath location.toList) }

/-- The parts of a token that the signature covers. -/
def tokenMessage (claims : TokenClaims) : List Char :=
  Base64.encodeUrl tokenHeader ++ '.' :: Base64.encodeUrl (Json.write claims.toData)

def TicketIssuer.token (issuer : TicketIssuer) (request : TicketRequest) (identifier : Guid)
    (envelope : Envelope) : Except SealError Ticket := do
  let claims ← issuer.claims request identifier envelope
  let message := tokenMessage claims
  match issuer.keys.signing.sign .sha256 (bytesOfChars message) with
  | .ok signature =>
    let text := String.ofList (message ++ '.' :: Base64.encodeUrl signature)
    return ⟨.token, text, some claims.expires⟩
  | .error e => .error (.signature e)

end GridAccess
