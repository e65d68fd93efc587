import GridAccess.Access.Kind
import GridAccess.Envelope.Delimited
import GridAccess.Envelope.Markup

/-!
# Received envelopes

An envelope arrives in one of two forms. Which one it is, is told from marks in the text.

## Main definitions

- `EnvelopeFormat.detect` — the form of a text
- `ReceivedEnvelope` — the form and the fields of a text
- `ReceivedEnvelope.parse` — reads either form
- `ReceivedEnvelope.access` — the kind of access that is granted
-/

namespace GridAccess

open Text

/-- The two forms of an envelope. -/
inductive EnvelopeFormat where
  | markup
  | delimited
  deriving DecidableEq, Repr

/-- The form of a text: markup if it holds a mark of that form, else delimited if it holds a
delimiter. -/
def EnvelopeFormat.detect (text : List Char) : Except EnvelopeError EnvelopeFormat :=
  if contains "BEGIN ENVELOPE".toList text ||
      contains (MarkupEnvelope.openingTag MarkupEnvelope.outerName) text then
    .ok .markup
  else if text.any fun c => c == '&' || c == '=' then .ok .delimited
  else .error .unrecognised

/-- The form and the fields of an envelope, in the order in which they arrived. -/
structure ReceivedEnvelope where
  format : EnvelopeFormat
  fields : List EnvelopeField
  deriving DecidableEq, Repr

namespace ReceivedEnvelope

def parse (text : String) : Except EnvelopeError ReceivedEnvelope :=
  match EnvelopeFormat.detect text.toList with
  | .error e => .error e
  | .ok format =>
    let fields :=
      match format with
      | .markup => MarkupEnvelope.parse text.toList
      | .delimited => Delimited.parse text.toList
    match fields with
    | .ok fields => .ok ⟨format, fields⟩
    | .error e => .error e

def get? (envelope : ReceivedEnvelope) (key : String) : Option String :=
  (findField? key envelope.fields).map EnvelopeField.value

/-- The value of a key as it was written. -/
def raw? (envelope : ReceivedEnvelope) (key : String) : Option String :=
  (findField? key envelope.fields).map EnvelopeField.raw

def contains (envelope : ReceivedEnvelope) (key : String) : Bool :=
  envelope.fields.any fun field => field.key == key

def access (envelope : ReceivedEnvelope) : Except EnvelopeError AccessKind :=
  match envelope.get? "access" with
  | none => .error (.missingField "access")
  | some text =>
    match AccessKind.parse text with
    | .ok kind => .ok kind
    | .error _ => .error (.invalidAccess text)

end ReceivedEnvelope

end GridAccess
