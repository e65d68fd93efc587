import GridAccess.Envelope.Field
import GridAccess.Text.Blank
import GridAccess.Text.Markup
import GridAccess.Text.Search

/-!
# Markup envelopes

In this form an envelope is a small document: a `file` element inside of an `authz` element, with
one element for each field, usually between two marker lines.

## Main definitions

- `MarkupEnvelope.write` — elements as a document between its markers
- `MarkupEnvelope.document` — a text without the markers
- `MarkupEnvelope.elements` — the fields of a sequence of elements
- `MarkupEnvelope.parse` — the fields of a document
-/

namespace GridAccess.MarkupEnvelope

open Text

def beginMark : List Char := "-----BEGIN ENVELOPE-----".toList

def endMark : List Char := "-----END ENVELOPE-----".toList

def openingTag (name : List Char) : List Char :=
  '<' :: name ++ ['>']

def closingTag (name : List Char) : List Char :=
  '<' :: '/' :: name ++ ['>']

/-- The name of the outer element. -/
def outerName : List Char := "authz".toList

/-- The name of the element that holds the fields. -/
def innerName : List Char := "file".toList

/-- An element on a line of its own. -/
def writeElement (element : String × String) : List Char :=
  "    ".toList ++ openingTag element.1.toList ++ Markup.escape element.2.toList ++
    closingTag element.1.toList ++ ['\n']

/-- A document with these elements, between its markers. -/
def write (elements : List (String × String)) : List Char :=
  beginMark ++ '\n' :: openingTag outerName ++ "\n  ".toList ++ openingTag innerName ++ '\n' ::
    elements.flatMap writeElement ++ "  ".toList ++ closingTag innerName ++ '\n' ::
    closingTag outerName ++ '\n' :: endMark ++ ['\n']

/-- The text between the markers, or the whole of a text that does not start with one. -/
def document (text : List Char) : Except EnvelopeError (List Char) :=
  match stripStart? beginMark (trim text) with
  | none => .ok (trim text)
  | some rest =>
    match stripEnd? endMark (trimEnd rest) with
    | some inside => .ok (trim inside)
    | none => .error (.malformedMarkup .missingEndMarker)

/-- What the element with a name contains: all from the first opening to the last closing tag. -/
def inside? (name text : List Char) : Option (List Char) :=
  between (openingTag name) (closingTag name) text

/-- Whether a text can be the name of an element. -/
def isName (name : List Char) : Bool :=
  match name with
  | [] => false
  | c :: _ => c != '/'

/-- The fields with that of one more element. -/
def addElement (fields : List EnvelopeField) (name raw : List Char) :
    Except EnvelopeError (List EnvelopeField) :=
  match Markup.unescape? raw with
  | some value => addField fields ⟨String.ofList name, String.ofList raw, String.ofList value⟩
  | none => .error (.invalidEscape (String.ofList raw))

/-- The fields found so far with those of a sequence of elements. A value ends at the first tag
that closes its element. -/
def elements (fields : List EnvelopeField) (text : List Char) :
    Except EnvelopeError (List EnvelopeField) :=
  match text with
  | [] => .ok fields
  | '<' :: tail =>
    match _htag : cut ['>'] tail with
    | none => .error (.malformedMarkup .expectedElement)
    | some (name, body) =>
      if isName name then
        match _hbody : cut (closingTag name) body with
        | none => .error (.malformedMarkup .unterminatedElement)
        | some (raw, rest) =>
          match addElement fields name raw with
          | .ok more => elements more (trimStart rest)
          | .error e => .error e
      else .error (.malformedMarkup .expectedOpeningTag)
  | _ => .error (.malformedMarkup .expectedElement)
termination_by text.length
decreasing_by
  have htag := congrArg List.length (cut_append _htag)
  have hbody := congrArg List.length (cut_append _hbody)
  have htrim : (trimStart rest).length ≤ rest.length := List.dropWhile_sublist _ |>.length_le
  simp only [List.length_append, List.length_cons, List.length_nil] at htag hbody ⊢
  omega

def parse (text : List Char) : Except EnvelopeError (List EnvelopeField) :=
  match document text with
  | .error e => .error e
  | .ok document =>
    match inside? outerName document with
    | none => .error (.malformedMarkup .missingAuthorization)
    | some outer =>
      match inside? innerName outer with
      | none => .error (.malformedMarkup .missingFile)
      | some inner => elements [] (trim inner)

end GridAccess.MarkupEnvelope
