import GridAccess.Data.Record
import GridAccess.Text.Search

/-!
# Claims of bearer tokens

A token says who issued it, for whom, when it is valid, and what it permits. The scope names the
kind of access and the path below which it holds.

## Main definitions

- `TokenClaims` — the eight claims
- `TokenClaims.storageScope?` — the access and the path of a scope
- `TokenClaims.toData`, `TokenClaims.ofData?` — the claims in data
-/

namespace GridAccess

open Text

/-- The claims of a bearer token. Times are seconds since the Unix epoch. -/
structure TokenClaims where
  issuer : String
  audience : String
  subject : String
  issued : UInt64
  notBefore : UInt64
  expires : UInt64
  identifier : String
  scope : String
  deriving DecidableEq, Repr

namespace TokenClaims

/-- What a scope on storage starts with. -/
def storageMark : List Char := "storage.".toList

/-- The scope of an access to a path. -/
def storageScope (access : String) (path : List Char) : String :=
  String.ofList (storageMark ++ access.toList ++ ':' :: path)

/-- The access and the path of a scope on storage. -/
def storageScope? (claims : TokenClaims) : Option (String × String) := do
  let rest ← stripStart? storageMark claims.scope.toList
  let (access, path) ← cut [':'] rest
  return (String.ofList access, String.ofList path)

/-- The names of the claims in their order. -/
def fieldNames : List String :=
  ["iss", "aud", "sub", "iat", "nbf", "exp", "jti", "scope"]

def toData (claims : TokenClaims) : Data :=
  .ofFields [("iss", .ofText claims.issuer), ("aud", .ofText claims.audience),
    ("sub", .ofText claims.subject), ("iat", .ofWord claims.issued),
    ("nbf", .ofWord claims.notBefore), ("exp", .ofWord claims.expires),
    ("jti", .ofText claims.identifier), ("scope", .ofText claims.scope)]

/-- The claims in data. All of them have to be there. -/
def ofData? (data : Data) : Option TokenClaims := do
  let record ← Record.ofData? .refused fieldNames data
  return {
    issuer := ← record.required? "iss" Data.asText?
    audience := ← record.required? "aud" Data.asText?
    subject := ← record.required? "sub" Data.asText?
    issued := ← record.required? "iat" Data.asWord?
    notBefore := ← record.required? "nbf" Data.asWord?
    expires := ← record.required? "exp" Data.asWord?
    identifier := ← record.required? "jti" Data.asText?
    scope := ← record.required? "scope" Data.asText? }

end TokenClaims

end GridAccess
