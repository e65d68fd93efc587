import GridAccess.Data.Record

/-!
# What tickets say about their issuer

Tickets name the service that issued them and expire after a configured time.

## Main definitions

- `TicketSettings` — issuers, lifetimes and the audience of tokens
- `TicketSettings.standard` — the settings of a service on the local host
- `TicketSettings.toData`, `TicketSettings.ofData?` — the settings in data
-/

namespace GridAccess

/-- Issuers and lifetimes, in seconds, of signed envelopes and of bearer tokens. Without an
audience a token is meant for the storage element it is issued for. -/
structure TicketSettings where
  issuer : String
  lifetime : UInt64
  tokenIssuer : String
  tokenLifetime : UInt64
  tokenAudience : Option String
  deriving DecidableEq, Repr

namespace TicketSettings

/-- A day, the lifetime of tickets unless another is configured. -/
def standardLifetime : UInt64 := 86400

/-- The issuer of tokens unless another is configured. -/
def standardTokenIssuer : String := "https://localhost:8097/"

/-- The settings of a service on the local host. -/
def standard : TicketSettings where
  issuer := "alien_localhost"
  lifetime := standardLifetime
  tokenIssuer := standardTokenIssuer
  tokenLifetime := standardLifetime
  tokenAudience := none

/-- The names of the fields in their order. -/
def fieldNames : List String :=
  ["issuer", "lifetime", "token_issuer", "token_lifetime", "token_audience"]

def toData (settings : TicketSettings) : Data :=
  .ofFields [("issuer", .ofText settings.issuer), ("lifetime", .ofWord settings.lifetime),
    ("token_issuer", .ofText settings.tokenIssuer),
    ("token_lifetime", .ofWord settings.tokenLifetime),
    ("token_audience", .ofOption .ofText settings.tokenAudience)]

def ofData? (data : Data) : Option TicketSettings := do
  let record ← Record.ofData? .refused fieldNames data
  return {
    issuer := ← record.required? "issuer" Data.asText?
    lifetime := ← record.required? "lifetime" Data.asWord?
    tokenIssuer := ← record.required? "token_issuer" Data.asText?
    tokenLifetime := ← record.required? "token_lifetime" Data.asWord?
    tokenAudience := ← record.optional? "token_audience" Data.asText? }

end TicketSettings

end GridAccess
