import GridAccess.Exchange.Identity
import GridAccess.Storage.Element

/-!
# Storage elements and replicas as data

## Main definitions

- `TicketPolicy.toData`, `TicketPolicy.ofData?` — a kind of ticket by its name
- `StorageElement.toData`, `StorageElement.ofData?` — a storage element in data
- `Replica.toData`, `Replica.ofData?` — a replica in data

## Main statements

- `TicketPolicy.ofData?_toData` — a kind of ticket is found again in its data
-/

namespace GridAccess

/-- The number of a storage element as data. -/
def elementNumberData (number : ElementNumber) : Data :=
  .number (.ofNat number.toNat)

namespace TicketPolicy

/-- The name of a kind of ticket as data. -/
def toData (policy : TicketPolicy) : Data :=
  .ofText policy.name

def ofData? (data : Data) : Option TicketPolicy := do
  let name ← data.asName?
  if name = signed.name then some .signed
  else if name = encrypted.name then some .encrypted
  else if name = token.name then some .token
  else none

/-- A kind of ticket is found again in its data. -/
theorem ofData?_toData (policy : TicketPolicy) : ofData? policy.toData = some policy := by
  cases policy <;> rfl

end TicketPolicy

namespace StorageElement

/-- The names of the fields in their order. -/
def fieldNames : List String :=
  ["id", "name", "seio_daemons", "storage_path", "qos", "exclusive_read", "exclusive_write",
    "demote_read", "needs_encrypted_envelope", "needs_scitokens_envelope"]

def textsData (texts : List String) : Data :=
  .list (texts.map .ofText)

/-- A floating-point number as data. Only finite numbers have numerals. -/
def floatData (value : Float) : Data :=
  match Numeral.ofFloat? value with
  | some numeral => .number numeral
  | none => .null

def toData (element : StorageElement) : Data :=
  .ofFields [("id", elementNumberData element.number), ("name", .ofText element.name),
    ("seio_daemons", .ofText element.endpoint), ("storage_path", .ofText element.directory),
    ("qos", textsData element.tags), ("exclusive_read", textsData element.exclusiveReaders),
    ("exclusive_write", textsData element.exclusiveWriters),
    ("demote_read", floatData element.readPenalty.toFloat),
    ("needs_encrypted_envelope", .bool element.wantsEncryption),
    ("needs_scitokens_envelope", .bool element.wantsToken)]

/-- The storage element in data. Everything but where it is may be left out. -/
def ofData? (data : Data) : Option StorageElement := do
  let record ← Record.ofData? .refused fieldNames data
  let texts := Data.asList? Data.asText?
  return {
    number := ← record.required? "id" Data.asSmallWord?
    name := ← record.required? "name" Data.asText?
    endpoint := ← record.required? "seio_daemons" Data.asText?
    directory := ← record.required? "storage_path" Data.asText?
    tags := ← record.withDefault? "qos" [] texts
    exclusiveReaders := ← record.withDefault? "exclusive_read" [] texts
    exclusiveWriters := ← record.withDefault? "exclusive_write" [] texts
    readPenalty := ← record.withDefault? "demote_read" 0 Data.asFloat?
    wantsEncryption := ← record.withDefault? "needs_encrypted_envelope" false Data.asBool?
    wantsToken := ← record.withDefault? "needs_scitokens_envelope" false Data.asBool? }

end StorageElement

namespace Replica

def toData (replica : Replica) : Data :=
  .ofFields [("guid", replica.guid.toData), ("se", elementNumberData replica.element),
    ("pfn", .ofText replica.location)]

def ofData? (data : Data) : Option Replica := do
  let record ← Record.ofData? .refused ["guid", "se", "pfn"] data
  return {
    guid := ← record.required? "guid" Guid.ofData?
    element := ← record.required? "se" Data.asSmallWord?
    location := ← record.required? "pfn" Data.asText? }

end Replica

end GridAccess
