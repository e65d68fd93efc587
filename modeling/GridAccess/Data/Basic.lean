import GridAccess.Data.Numeral

/-!
# Structured data

Records and settings are exchanged as structured data, whatever notation it is written in.

## Main definitions

- `Data` — null, truth values, numbers, texts, lists and tables
- `Data.asText?`, `Data.asWord?`, … — the value of one kind that data stands for
- `Data.ofText`, `Data.ofWord`, … — values as data

## Main statements

- `Data.asText?_ofText`, `Data.asWord?_ofWord` — a value is found again in its data
-/

namespace GridAccess

/-- Structured data. A text may be missing where it was written in a way that denotes none; such
data can be skipped but not read. -/
inductive Data where
  | null
  | bool (value : Bool)
  | number (numeral : Numeral)
  | text (content : Option String)
  | list (items : List Data)
  | table (fields : List (Option String × Data))

namespace Data

def ofText (content : String) : Data :=
  .text (some content)

def ofWord (n : UInt64) : Data :=
  .number (.ofNat n.toNat)

/-- A value that may be missing as data. -/
def ofOption {α : Type} (toData : α → Data) : Option α → Data
  | some a => toData a
  | none => .null

def ofFields (fields : List (String × Data)) : Data :=
  .table (fields.map fun field => (some field.1, field.2))

def asText? : Data → Option String
  | .text content => content
  | _ => none

def asBool? : Data → Option Bool
  | .bool value => some value
  | _ => none

/-- The number below 2⁶⁴ that data stands for. -/
def asWord? : Data → Option UInt64
  | .number numeral =>
    numeral.toNat?.bind fun n => if n < UInt64.size then some (UInt64.ofNat n) else none
  | _ => none

/-- The number below 2³² that data stands for. -/
def asSmallWord? : Data → Option UInt32
  | .number numeral =>
    numeral.toNat?.bind fun n => if n < UInt32.size then some (UInt32.ofNat n) else none
  | _ => none

def asFloat? : Data → Option Float
  | .number numeral => numeral.toFloat?
  | _ => none

/-- The list of values that data stands for. -/
def asList? {α : Type} (ofData? : Data → Option α) : Data → Option (List α)
  | .list items => items.mapM ofData?
  | _ => none

/-- The name that data stands for: a text, or a table whose only field has that name and no
value. -/
def asName? : Data → Option String
  | .text content => content
  | .table [(name, .null)] => name
  | _ => none

@[simp] theorem asText?_ofText (content : String) : (ofText content).asText? = some content := rfl

@[simp] theorem asWord?_ofWord (n : UInt64) : (ofWord n).asWord? = some n := by
  simp [ofWord, asWord?, Numeral.toNat?_ofNat, n.toNat_lt]

end Data

end GridAccess
