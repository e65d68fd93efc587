import GridAccess.Data.Record
import GridAccess.Identity.File

/-!
# Identifiers and files as data

Identifiers and permissions are exchanged as their texts, registered files as records.

## Main definitions

- `Guid.toData`, `Guid.ofData?` — an identifier in data
- `Permissions.toData`, `Permissions.ofData?` — permissions in data
- `FileRecord.toData`, `FileRecord.ofData?` — a registered file in data

## Main statements

- `Permissions.ofData?_toData` — permissions are found again in their data
-/

namespace GridAccess

namespace Guid

def toData (guid : Guid) : Data :=
  .ofText guid.text

/-- The identifier of which data is a spelling. -/
def ofData? (data : Data) : Option Guid := do
  (parse (← data.asText?)).toOption

end Guid

namespace Permissions

def toData (permissions : Permissions) : Data :=
  .ofText permissions.text

/-- The permissions of which data holds the digits. -/
def ofData? (data : Data) : Option Permissions := do
  (parse (← data.asText?)).toOption

theorem ofData?_toData (permissions : Permissions) :
    ofData? permissions.toData = some permissions := by
  simp [ofData?, toData, parse_text, Except.toOption]

end Permissions

namespace FileRecord

/-- The names of the fields in their order. -/
def fieldNames : List String :=
  ["guid", "size", "md5", "owner", "gowner", "perm", "ctime", "expire_time"]

def toData (file : FileRecord) : Data :=
  .ofFields [("guid", file.guid.toData), ("size", .ofWord file.size),
    ("md5", .ofOption .ofText file.md5), ("owner", .ofText file.owner),
    ("gowner", .ofText file.group), ("perm", file.permissions.toData),
    ("ctime", .ofWord file.created), ("expire_time", .ofOption .ofWord file.expires)]

/-- The registered file in data. The checksum is taken as it is. -/
def ofData? (data : Data) : Option FileRecord := do
  let record ← Record.ofData? .refused fieldNames data
  return {
    guid := ← record.required? "guid" Guid.ofData?
    size := ← record.required? "size" Data.asWord?
    md5 := ← record.optional? "md5" Data.asText?
    owner := ← record.required? "owner" Data.asText?
    group := ← record.required? "gowner" Data.asText?
    permissions := ← record.required? "perm" Permissions.ofData?
    created := ← record.required? "ctime" Data.asWord?
    expires := ← record.optional? "expire_time" Data.asWord? }

end FileRecord

end GridAccess
