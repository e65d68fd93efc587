import GridAccess.Text.Blank
import GridAccess.Ticket.Settings

/-!
# Settings of the service

The service is configured in sections: its name, the lifetime of envelopes, its tokens and the
files its keys are read from. A section or a field that is left out has its standard value.

## Main definitions

- `Settings` — the configured values
- `Settings.validate` — names and lifetimes must not be empty
- `Settings.tickets` — what tickets say about this service
- `Settings.toData`, `Settings.ofData?` — the settings in data
-/

namespace GridAccess

/-- The name of the service and of the host it runs on. -/
structure IssuerSettings where
  name : String
  hostname : String
  deriving DecidableEq, Repr

/-- The issuer, the lifetime and the audience of bearer tokens. -/
structure TokenSettings where
  issuer : String
  lifetime : UInt64
  audience : Option String
  deriving DecidableEq, Repr

/-- The files that keys are read from: the service's own key, the public key of the storage
elements, and for checks the public half of the former and the private half of the latter. -/
structure KeyFiles where
  signing : String
  signingPublic : Option String
  elementPublic : String
  elementPrivate : Option String
  deriving DecidableEq, Repr

/-- The configured values of a service. -/
structure Settings where
  issuer : IssuerSettings
  envelopeLifetime : UInt64
  token : TokenSettings
  keys : KeyFiles
  deriving DecidableEq, Repr

/-- Which setting makes no sense. -/
inductive SettingsFault where
  | emptyIssuer
  | noEnvelopeLifetime
  | noTokenLifetime
  deriving DecidableEq, Repr

namespace IssuerSettings

/-- The service's name on the local host. -/
def standard : IssuerSettings := ⟨"alien", "localhost"⟩

def text (issuer : IssuerSettings) : String :=
  issuer.name ++ "_" ++ issuer.hostname

def toData (issuer : IssuerSettings) : Data :=
  .ofFields [("name", .ofText issuer.name), ("hostname", .ofText issuer.hostname)]

def ofData? (surplus : Surplus) (data : Data) : Option IssuerSettings := do
  let record ← Record.ofData? surplus ["name", "hostname"] data
  return {
    name := ← record.withDefault? "name" standard.name Data.asText?
    hostname := ← record.withDefault? "hostname" standard.hostname Data.asText? }

end IssuerSettings

namespace TokenSettings

/-- Tokens of a service on the local host. -/
def standard : TokenSettings :=
  ⟨TicketSettings.standardTokenIssuer, TicketSettings.standardLifetime, none⟩

def toData (token : TokenSettings) : Data :=
  .ofFields [("issuer", .ofText token.issuer), ("lifetime", .ofWord token.lifetime),
    ("audience", .ofOption .ofText token.audience)]

def ofData? (surplus : Surplus) (data : Data) : Option TokenSettings := do
  let record ← Record.ofData? surplus ["issuer", "lifetime", "audience"] data
  return {
    issuer := ← record.withDefault? "issuer" standard.issuer Data.asText?
    lifetime := ← record.withDefault? "lifetime" standard.lifetime Data.asWord?
    audience := ← record.nullable? "audience" Data.asText? }

end TokenSettings

namespace KeyFiles

def unset : KeyFiles := ⟨"", none, "", none⟩

/-- The names of the fields in their order. -/
def fieldNames : List String :=
  ["authen_private_key", "authen_public_key", "se_public_key", "se_private_key"]

def toData (keys : KeyFiles) : Data :=
  .ofFields [("authen_private_key", .ofText keys.signing),
    ("authen_public_key", .ofOption .ofText keys.signingPublic),
    ("se_public_key", .ofText keys.elementPublic),
    ("se_private_key", .ofOption .ofText keys.elementPrivate)]

/-- The key section in data. The two keys needed for issuing tickets have to be given. -/
def ofData? (surplus : Surplus) (data : Data) : Option KeyFiles := do
  let record ← Record.ofData? surplus fieldNames data
  return {
    signing := ← record.required? "authen_private_key" Data.asText?
    signingPublic := ← record.nullable? "authen_public_key" Data.asText?
    elementPublic := ← record.required? "se_public_key" Data.asText?
    elementPrivate := ← record.nullable? "se_private_key" Data.asText? }

end KeyFiles

namespace Settings

/-- The settings of a service for which nothing is configured. -/
def standard : Settings :=
  ⟨.standard, TicketSettings.standardLifetime, .standard, .unset⟩

/-- Settings that make sense: the service has a name and tickets have a lifetime. -/
def validate (settings : Settings) : Except SettingsFault Settings :=
  if Text.trim settings.issuer.name.toList = [] then .error .emptyIssuer
  else if settings.envelopeLifetime = 0 then .error .noEnvelopeLifetime
  else if settings.token.lifetime = 0 then .error .noTokenLifetime
  else .ok settings

/-- What tickets say about this service. -/
def tickets (settings : Settings) : TicketSettings where
  issuer := settings.issuer.text
  lifetime := settings.envelopeLifetime
  tokenIssuer := settings.token.issuer
  tokenLifetime := settings.token.lifetime
  tokenAudience := settings.token.audience

def toData (settings : Settings) : Data :=
  .ofFields [("issuer", settings.issuer.toData),
    ("envelope", .ofFields [("lifetime", .ofWord settings.envelopeLifetime)]),
    ("token", settings.token.toData), ("keys", settings.keys.toData)]

/-- The envelope section in data, which is a lifetime. -/
def envelopeLifetime? (surplus : Surplus) (data : Data) : Option UInt64 := do
  let record ← Record.ofData? surplus ["lifetime"] data
  record.withDefault? "lifetime" TicketSettings.standardLifetime Data.asWord?

/-- The settings in data, whether or not they make sense. -/
def ofData? (surplus : Surplus) (data : Data) : Option Settings := do
  let record ← Record.ofData? surplus ["issuer", "envelope", "token", "keys"] data
  return {
    issuer := ← record.withDefault? "issuer" .standard (IssuerSettings.ofData? surplus)
    envelopeLifetime :=
      ← record.withDefault? "envelope" standard.envelopeLifetime (envelopeLifetime? surplus)
    token := ← record.withDefault? "token" .standard (TokenSettings.ofData? surplus)
    keys := ← record.withDefault? "keys" .unset (KeyFiles.ofData? surplus) }

end Settings

def SettingsFault.message : SettingsFault → String
  | .emptyIssuer => "issuer.name must not be empty"
  | .noEnvelopeLifetime => "envelope.lifetime must be positive"
  | .noTokenLifetime => "token.lifetime must be positive"

end GridAccess
