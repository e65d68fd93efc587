import GridAccess.Envelope.Field
import GridAccess.Text.Blank
import GridAccess.Text.Percent
import GridAccess.Text.Search

/-!
# Delimited envelopes

In this form an envelope is one line of pairs `key=value` with `&` between them. Delimiters inside
of values are escaped.

## Main definitions

- `Delimited.write` — pairs as a line
- `Delimited.parse` — the fields of a line
-/

namespace GridAccess.Delimited

open Text

/-- A key and a value, the value escaped. -/
def writePair (pair : String × String) : List Char :=
  pair.1.toList ++ '=' :: Percent.escape pair.2.toList

def write (pairs : List (String × String)) : List Char :=
  ['&'].intercalate (pairs.map writePair)

/-- The field of one pair: it is divided at its first equals sign. -/
def fieldOf (piece : List Char) : Except EnvelopeError EnvelopeField :=
  match cut ['='] piece with
  | none => .error (.malformedPair (String.ofList piece))
  | some (key, raw) =>
    match Percent.unescape? (String.ofList raw) with
    | some value => .ok ⟨String.ofList key, String.ofList raw, value⟩
    | none => .error (.invalidEscape (String.ofList raw))

/-- The fields with that of one more pair. -/
def addPair (fields : List EnvelopeField) (piece : List Char) :
    Except EnvelopeError (List EnvelopeField) :=
  match fieldOf piece with
  | .ok field => addField fields field
  | .error e => .error e

/-- The fields of a line, with white space around it ignored. -/
def parse (text : List Char) : Except EnvelopeError (List EnvelopeField) :=
  ((trim text).splitOn '&').foldlM addPair []

end GridAccess.Delimited
