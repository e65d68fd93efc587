import GridAccess.Data.Binary64
import GridAccess.Name.LogicalPath
import GridAccess.Storage.Replica
import GridAccess.Text.Casing

/-!
# Storage elements

A storage element is a named endpoint that holds replicas. Its name has parts between double
colons, and one of them is the site it belongs to.

## Main definitions

- `StorageElement` — an endpoint with its directory, tags and restrictions
- `TicketPolicy` — which kind of ticket an element asks for
- `StorageElement.site` — the site part of the name
- `StorageElement.newLocation` — where a new replica is put
- `StorageElement.pathLocation` — the location of a logical path, for elements addressed by name
-/

namespace GridAccess

open Text

/-- The kind of ticket an element asks for: one signed and readable, one encrypted towards the
element, or a bearer token. -/
inductive TicketPolicy where
  | signed
  | encrypted
  | token
  deriving DecidableEq, Repr

/-- An endpoint that holds replicas. A list of exclusive users restricts an action to them, unless
it is empty. -/
structure StorageElement where
  number : ElementNumber
  name : String
  endpoint : String
  directory : String
  tags : List String
  exclusiveReaders : List String
  exclusiveWriters : List String
  readPenalty : Binary64
  wantsEncryption : Bool
  wantsToken : Bool
  deriving DecidableEq, Repr

namespace StorageElement

/-- An element without tags, restrictions and wishes. -/
def basic (number : ElementNumber) (name endpoint directory : String) : StorageElement where
  number := number
  name := name
  endpoint := endpoint
  directory := directory
  tags := []
  exclusiveReaders := []
  exclusiveWriters := []
  readPenalty := .zero
  wantsEncryption := false
  wantsToken := false

/-- The stand-in for a number that no element has: without an endpoint and without restrictions. -/
def unregistered (number : ElementNumber) : StorageElement :=
  basic number "no_se" "" "/"

/-- An element with these tags, in lower case. -/
def withTags (element : StorageElement) (tags : List String) : StorageElement :=
  { element with tags := tags.map fun tag => String.ofList (lowercase tag.toList) }

/-- The parts of a name between double colons. -/
def nameParts (name : List Char) : List (List Char) :=
  match _h : cut [':', ':'] name with
  | some (part, rest) => part :: nameParts rest
  | none => [name]
termination_by name.length
decreasing_by
  have := congrArg List.length (cut_append _h)
  simp only [List.length_append, List.length_cons, List.length_nil] at this
  omega

/-- The site part of a name: the first of two parts, the second of three or more, the whole of a
name without parts. -/
def site (element : StorageElement) : String :=
  match nameParts element.name.toList with
  | [first, _] => String.ofList first
  | _ :: second :: _ :: _ => String.ofList second
  | _ => element.name

/-- Whether an element has a name, white space around it and the case of ASCII letters ignored. -/
def isNamed (element : StorageElement) (name : String) : Bool :=
  eqIgnoringCase element.name.toList (trim name.toList)

/-- Whether files on an element are addressed by their logical path. -/
def isPathAddressed (element : StorageElement) : Bool :=
  contains "DCACHE".toList element.name.toList

/-- Whether an element carries a tag, the case of ASCII letters ignored. -/
def hasTag (element : StorageElement) (tag : String) : Bool :=
  element.tags.any fun own => eqIgnoringCase own.toList tag.toList

/-- The kind of ticket an element asks for. Encryption comes before tokens. -/
def policy (element : StorageElement) : TicketPolicy :=
  if element.wantsEncryption then .encrypted
  else if element.wantsToken then .token
  else .signed

/-- A text without the slashes at its end. -/
def withoutTrailingSlashes (text : String) : List Char :=
  dropEnd (· == '/') text.toList

/-- The location of a logical path on this endpoint. -/
def pathLocation (element : StorageElement) (path : LogicalPath) : String :=
  String.ofList (withoutTrailingSlashes element.endpoint ++ '/' :: path.relative)

/-- The directory of an element with a slash in front and none at its end. -/
def rootedDirectory (element : StorageElement) : List Char :=
  match withoutTrailingSlashes element.directory with
  | '/' :: rest => '/' :: rest
  | other => '/' :: other

def newLocation (element : StorageElement) (guid : Guid) : String :=
  String.ofList (withoutTrailingSlashes element.endpoint ++ '/' :: element.rootedDirectory ++
    '/' :: guid.directory)

/-- Whether a user may read from an element. -/
def admitsReader (element : StorageElement) (user : String) : Bool :=
  element.exclusiveReaders.isEmpty || element.exclusiveReaders.contains user

/-- Whether a user may write to an element. -/
def admitsWriter (element : StorageElement) (user : String) : Bool :=
  element.exclusiveWriters.isEmpty || element.exclusiveWriters.contains user

end StorageElement

def TicketPolicy.name : TicketPolicy → String
  | .signed => "Signed"
  | .encrypted => "Encrypted"
  | .token => "Token"

end GridAccess
