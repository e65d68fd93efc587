import GridAccess.Access.Kind
import GridAccess.Access.Principal
import GridAccess.Data.Record

/-!
# Kinds of access and principals as data

## Main definitions

- `AccessKind.toData`, `AccessKind.ofData?` — a kind of access by its name
- `Principal.toData`, `Principal.ofData?` — a principal in data

## Main statements

- `AccessKind.ofData?_toData` — a kind of access is found again in its data
-/

namespace GridAccess

namespace AccessKind

/-- The name of a kind of access as data. -/
def toData (kind : AccessKind) : Data :=
  .ofText kind.name

/-- The kind of access that data names exactly. -/
def ofData? (data : Data) : Option AccessKind := do
  let name ← data.asName?
  if name = read.name then some .read
  else if name = write.name then some .write
  else if name = delete.name then some .delete
  else none

/-- A kind of access is found again in its data. -/
theorem ofData?_toData (kind : AccessKind) : ofData? kind.toData = some kind := by
  cases kind <;> rfl

end AccessKind

namespace Principal

/-- A principal as data, its roles in ascending order. -/
def toData (principal : Principal) : Data :=
  .ofFields [("name", .ofText principal.name), ("roles", .list (principal.roles.map .ofText)),
    ("site", .ofOption .ofText principal.site)]

/-- The principal in data. It holds the roles listed and no others. -/
def ofData? (data : Data) : Option Principal := do
  let record ← Record.ofData? .refused ["name", "roles", "site"] data
  let roles ← record.required? "roles" (Data.asList? Data.asText?)
  return {
    name := ← record.required? "name" Data.asText?
    roles := roles.foldl (fun held role => insertRole role held) []
    site := ← record.optional? "site" Data.asText? }

end Principal

end GridAccess
