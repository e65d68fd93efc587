import GridAccess.Data.Record
import GridAccess.Data.Sound

/-!
# Headers of bearer tokens

The header of a token names the algorithm of its signature. It may carry further fields, among them
a public key. None of them is used, but those that are known have to be of the right kind.

## Main definitions

- `HeaderKey.Kind` — the kinds of keys with their parameters
- `HeaderKey.isKey` — whether data is a key
- `TokenHeader.algorithm?` — the algorithm named by a header
-/

namespace GridAccess

/-- The names of the algorithms that a header may name. -/
def tokenAlgorithms : List String :=
  ["HS256", "HS384", "HS512", "ES256", "ES384", "RS256", "RS384", "RS512", "PS256", "PS384",
    "PS512", "EdDSA"]

/-- The name, if it is one of a list. -/
def oneOf? (names : List String) (name : Option String) : Option String :=
  name.filter names.contains

namespace HeaderKey

/-- A kind of keys: its name, whether its keys lie on a named curve, and its other parameters, which
are texts. -/
structure Kind where
  name : String
  onCurve : Bool
  parameters : List String
  deriving DecidableEq, Repr

def kinds : List Kind :=
  [⟨"EC", true, ["x", "y"]⟩, ⟨"RSA", false, ["n", "e"]⟩, ⟨"oct", false, ["k"]⟩,
    ⟨"OKP", true, ["x"]⟩]

def curves : List String := ["P-256", "P-384", "P-521", "Ed25519"]

/-- The names of the algorithms that a key may be meant for. -/
def algorithms : List String :=
  tokenAlgorithms ++ ["RSA1_5", "RSA-OAEP", "RSA-OAEP-256"]

/-- The fields of keys of all kinds that are texts, if they are there. -/
def textNames : List String := ["use", "kid", "x5u", "x5t", "x5t#S256"]

/-- The fields of keys of all kinds that are lists of texts, if they are there. -/
def listNames : List String := ["key_ops", "x5c"]

/-- The name of an algorithm. An empty table may stand behind it as well as no value. -/
def algorithmName? : Data → Option String
  | .table [(name, .table [])] => name
  | data => data.asName?

/-- Whether the fields of all kinds of keys are of the right kind. -/
def hasCommonFields (data : Data) : Bool :=
  Option.isSome do
    let record ← Record.ofData? .refused ("alg" :: textNames ++ listNames) data
    let _ ← textNames.mapM fun name => record.optional? name Data.asText?
    let _ ← listNames.mapM fun name => record.optional? name (Data.asList? Data.asText?)
    record.optional? "alg" fun alg => oneOf? algorithms (algorithmName? alg)

/-- The names of the fields that a key of a kind has to have. -/
def Kind.fieldNames (kind : Kind) : List String :=
  "kty" :: (if kind.onCurve then ["crv"] else []) ++ kind.parameters

/-- Whether data has the fields of a kind of keys. -/
def Kind.describes (kind : Kind) (data : Data) : Bool :=
  Option.isSome do
    let record ← Record.ofData? .refused kind.fieldNames data
    let _ ← record.required? "kty" fun name => oneOf? [kind.name] name.asName?
    let _ ← kind.parameters.mapM fun name => record.required? name Data.asText?
    if kind.onCurve then record.required? "crv" fun name => oneOf? curves name.asName?
    else some kind.name

/-- How deep a key may be nested. -/
def depthBound : Nat := 126

/-- Whether data is a key: a table with the fields of some kind of keys. All of it has to be sound,
also what stands in other fields. -/
def isKey (data : Data) : Bool :=
  match data with
  | .table _ =>
    data.isSound depthBound && hasCommonFields data && kinds.any fun kind => kind.describes data
  | _ => false

end HeaderKey

namespace TokenHeader

/-- The names of the fields in their order. -/
def fieldNames : List String :=
  ["typ", "alg", "cty", "jku", "jwk", "kid", "x5u", "x5c", "x5t", "x5t#S256"]

/-- The fields that are texts, if they are there. -/
def textNames : List String :=
  ["typ", "cty", "jku", "kid", "x5u", "x5t", "x5t#S256"]

/-- The algorithm named by a header all of whose fields are of the right kind. -/
def algorithm? (data : Data) : Option String := do
  let record ← Record.ofData? .refused fieldNames data
  let _ ← textNames.mapM fun name => record.optional? name Data.asText?
  let _ ← record.optional? "x5c" (Data.asList? Data.asText?)
  let _ ← record.optional? "jwk" fun key => if HeaderKey.isKey key then some key else none
  record.required? "alg" fun name => oneOf? tokenAlgorithms name.asName?

end TokenHeader

end GridAccess
