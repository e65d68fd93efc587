import GridAccess.Data.Basic

/-!
# Records in data

A record is given as a table of its fields in any order, or as a list of its fields in their
order. Fields that the record does not have are skipped in a table; a field given twice is refused.

## Main definitions

- `Surplus` — what happens to items of a list beyond the last field
- `Record` — the data given for each field
- `Record.ofData?` — the record given by data
- `Record.required?`, `Record.optional?`, `Record.withDefault?` — reading one field
-/

namespace GridAccess

/-- What happens to items of a list beyond the last field of a record. -/
inductive Surplus where
  | refused
  | ignored
  deriving DecidableEq, Repr

/-- The data given for the fields of a record. In a positional record a missing field is one beyond
the end of the list. -/
structure Record where
  get? : String → Option Data
  positional : Bool

namespace Record

/-- The data of the first field with a name. -/
def find? (name : String) (fields : List (Option String × Data)) : Option Data :=
  (fields.find? fun field => field.1 == some name).map fun field => field.2

def occurrences (name : String) (fields : List (Option String × Data)) : Nat :=
  fields.countP fun field => field.1 == some name

/-- The record with these fields that data gives. -/
def ofData? (surplus : Surplus) (names : List String) : Data → Option Record
  | .table fields =>
    if fields.any (fun field => field.1.isNone) then none
    else if names.any fun name => 1 < occurrences name fields then none
    else some ⟨fun name => find? name fields, false⟩
  | .list items =>
    if surplus = .refused ∧ names.length < items.length then none
    else some ⟨fun name => (names.zip items).lookup name, true⟩
  | _ => none

def required? {α : Type} (record : Record) (name : String) (read : Data → Option α) : Option α :=
  (record.get? name).bind read

/-- A field that may be null. In a table it may also be missing. -/
def optional? {α : Type} (record : Record) (name : String) (read : Data → Option α) :
    Option (Option α) :=
  match record.get? name with
  | none => if record.positional then none else some none
  | some .null => some none
  | some data => (read data).map some

/-- A field with a value that stands for a missing one. -/
def withDefault? {α : Type} (record : Record) (name : String) (default : α)
    (read : Data → Option α) : Option α :=
  match record.get? name with
  | none => some default
  | some data => read data

/-- A field that may be null or missing. -/
def nullable? {α : Type} (record : Record) (name : String) (read : Data → Option α) :
    Option (Option α) :=
  record.withDefault? name none fun data =>
    match data with
    | .null => some none
    | other => (read other).map some

end Record

end GridAccess
