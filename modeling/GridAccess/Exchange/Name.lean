import GridAccess.Exchange.Identity
import GridAccess.Name.Entry

/-!
# Paths and catalogue entries as data

## Main definitions

- `LogicalPath.toData`, `LogicalPath.ofData?` — a path in data
- `EntryKind.toData`, `EntryKind.ofData?` — a kind of entry by its name
- `CatalogueEntry.toData`, `CatalogueEntry.ofData?` — a catalogue entry in data

## Main statements

- `EntryKind.ofData?_toData` — a kind of entry is found again in its data
-/

namespace GridAccess

namespace LogicalPath

def toData (path : LogicalPath) : Data :=
  .ofText path.text

/-- The path that the text in data denotes. -/
def ofData? (data : Data) : Option LogicalPath := do
  (parse (← data.asText?)).toOption

end LogicalPath

namespace EntryKind

/-- The name of a kind of entry as data. -/
def toData (kind : EntryKind) : Data :=
  .ofText kind.name

def ofData? (data : Data) : Option EntryKind := do
  let name ← data.asName?
  if name = file.name then some .file
  else if name = directory.name then some .directory
  else none

/-- A kind of entry is found again in its data. -/
theorem ofData?_toData (kind : EntryKind) : ofData? kind.toData = some kind := by
  cases kind <;> rfl

end EntryKind

namespace CatalogueEntry

def toData (entry : CatalogueEntry) : Data :=
  .ofFields [("lfn", entry.path.toData), ("kind", entry.kind.toData),
    ("guid", .ofOption Guid.toData entry.guid), ("owner", .ofText entry.owner),
    ("gowner", .ofText entry.group), ("perm", entry.permissions.toData)]

def ofData? (data : Data) : Option CatalogueEntry := do
  let record ← Record.ofData? .refused ["lfn", "kind", "guid", "owner", "gowner", "perm"] data
  return {
    path := ← record.required? "lfn" LogicalPath.ofData?
    kind := ← record.required? "kind" EntryKind.ofData?
    guid := ← record.optional? "guid" Guid.ofData?
    owner := ← record.required? "owner" Data.asText?
    group := ← record.required? "gowner" Data.asText?
    permissions := ← record.required? "perm" Permissions.ofData? }

end CatalogueEntry

end GridAccess
