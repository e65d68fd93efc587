/-!
# Fields of received envelopes

A received envelope is a list of fields in the order in which they arrived. A field keeps its value
as it was written, because that is what signatures cover, and the value denoted by it.

## Main definitions

- `EnvelopeField` — a key with its written and its denoted value
- `EnvelopeError` — why a text is no envelope
- `addField` — one more field, with a key that is not there yet
- `findField?` — the field with a key

## Main statements

- `addField_eq_ok_iff`, `addField_eq_error_iff` — when a field is added, and why not
-/

namespace GridAccess

/-- A key with its value as it was written and as it is to be understood. -/
structure EnvelopeField where
  key : String
  raw : String
  value : String
  deriving DecidableEq, Repr

/-- What is wrong with the markup of an envelope. -/
inductive MarkupFault where
  | missingEndMarker
  | missingAuthorization
  | missingFile
  | expectedElement
  | expectedOpeningTag
  | unterminatedElement
  deriving DecidableEq, Repr

/-- Why a text is no envelope, or not one that can be used. -/
inductive EnvelopeError where
  | unrecognised
  | malformedPair (piece : String)
  | emptyKey
  | duplicateKey (key : String)
  | invalidEscape (text : String)
  | malformedMarkup (fault : MarkupFault)
  | missingField (key : String)
  | invalidAccess (text : String)
  deriving DecidableEq, Repr

def findField? (key : String) (fields : List EnvelopeField) : Option EnvelopeField :=
  fields.find? fun field => field.key == key

/-- The fields with one more at the end. Its key has to be new. -/
def addField (fields : List EnvelopeField) (field : EnvelopeField) :
    Except EnvelopeError (List EnvelopeField) :=
  if field.key = "" then .error .emptyKey
  else if fields.any fun other => other.key == field.key then .error (.duplicateKey field.key)
  else .ok (fields ++ [field])

/-- A field is added at the end if its key is not empty and not there yet. -/
theorem addField_eq_ok_iff {fields result : List EnvelopeField} {field : EnvelopeField} :
    addField fields field = .ok result ↔
      field.key ≠ "" ∧ (∀ other ∈ fields, other.key ≠ field.key) ∧ result = fields ++ [field] := by
  unfold addField
  by_cases hempty : field.key = ""
  · simp [hempty]
  · by_cases hdup : fields.any (fun other => other.key == field.key) = true
    · rw [if_neg hempty, if_pos hdup]
      simp only [List.any_eq_true, beq_iff_eq] at hdup
      obtain ⟨other, hmem, hkey⟩ := hdup
      simp only [reduceCtorEq, false_iff, not_and]
      exact fun _ hall => absurd hkey (hall other hmem)
    · rw [if_neg hempty, if_neg hdup]
      simp only [List.any_eq_true, beq_iff_eq, not_exists, not_and] at hdup
      simp only [Except.ok.injEq]
      exact ⟨fun h => ⟨hempty, hdup, h.symm⟩, fun h => h.2.2.symm⟩

/-- A field with a key is refused because the key is there. -/
theorem addField_eq_error_iff {fields : List EnvelopeField} {field : EnvelopeField}
    {e : EnvelopeError} :
    addField fields field = .error e ↔
      field.key = "" ∧ e = .emptyKey ∨
        field.key ≠ "" ∧ field.key ∈ fields.map EnvelopeField.key ∧ e = .duplicateKey field.key := by
  have hthere : (fields.any fun other => other.key == field.key) = true ↔
      field.key ∈ fields.map EnvelopeField.key := by
    simp only [List.any_eq_true, beq_iff_eq, List.mem_map]
  rw [← hthere, addField]
  split
  · next hempty =>
    simp only [hempty, true_and, ne_eq, not_true_eq_false, false_and, or_false, Except.error.injEq]
    exact eq_comm
  · next hempty =>
    split
    · next hdup =>
      simp only [hempty, hdup, false_and, false_or, ne_eq, not_false_eq_true, true_and,
        Except.error.injEq]
      exact eq_comm
    · next hdup => simp [hempty, hdup]

def MarkupFault.message : MarkupFault → String
  | .missingEndMarker => "missing end marker"
  | .missingAuthorization => "missing <authz> element"
  | .missingFile => "missing <file> element"
  | .expectedElement => "expected an element"
  | .expectedOpeningTag => "expected an opening tag"
  | .unterminatedElement => "unterminated element"

def EnvelopeError.message : EnvelopeError → String
  | .unrecognised => "envelope is neither XML nor '&'-delimited"
  | .malformedPair piece => s!"expected 'key=value', got '{piece}'"
  | .emptyKey => "envelope contains an empty key"
  | .duplicateKey key => s!"key '{key}' appears more than once"
  | .invalidEscape text => s!"invalid escape sequence in '{text}'"
  | .malformedMarkup fault => s!"malformed XML envelope: {fault.message}"
  | .missingField key => s!"envelope has no '{key}' field"
  | .invalidAccess text => s!"unknown access type '{text}'"

end GridAccess
