import GridAccess.Data.Basic
import GridAccess.Json.Text

/-!
# Writing JSON

Data is written without white space, fields in their order.

## Main definitions

- `Json.write` — the bytes of data
-/

namespace GridAccess.Json

def ascii (text : List Char) : List UInt8 :=
  text.map fun c => UInt8.ofNat c.toNat

/-- The digits of a fraction, after a point. -/
def writeFraction : Option (List Char) → List UInt8
  | some digits => 0x2E :: ascii digits
  | none => []

def writeExponent : Option (Bool × List Char) → List UInt8
  | some (negative, digits) => 0x65 :: (if negative then 0x2D else 0x2B) :: ascii digits
  | none => []

def writeNumeral (numeral : Numeral) : List UInt8 :=
  (if numeral.negative then [0x2D] else []) ++ ascii numeral.whole ++
    writeFraction numeral.fraction ++ writeExponent numeral.exponent

/-- A text, or half of a pair of units for one that is missing. -/
def writeContent : Option String → List UInt8
  | some content => writeText content
  | none => ascii "\"\\ud800\"".toList

mutual

def write : Data → List UInt8
  | .null => ascii "null".toList
  | .bool true => ascii "true".toList
  | .bool false => ascii "false".toList
  | .number numeral => writeNumeral numeral
  | .text content => writeContent content
  | .list items => 0x5B :: writeItems items ++ [0x5D]
  | .table fields => 0x7B :: writeFields fields ++ [0x7D]

/-- The items of a list with commas between them. -/
def writeItems : List Data → List UInt8
  | [] => []
  | [item] => write item
  | item :: items => write item ++ 0x2C :: writeItems items

/-- The fields of a table with commas between them. -/
def writeFields : List (Option String × Data) → List UInt8
  | [] => []
  | [(name, value)] => writeContent name ++ 0x3A :: write value
  | (name, value) :: fields => writeContent name ++ 0x3A :: write value ++ 0x2C :: writeFields fields

end

end GridAccess.Json
