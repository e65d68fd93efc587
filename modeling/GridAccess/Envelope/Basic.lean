import GridAccess.Envelope.Key
import GridAccess.Envelope.Received
import GridAccess.Storage.Location

/-!
# Envelopes

An envelope describes one granted access to one replica. Its values stand in the canonical order
of their keys. Only markup envelopes say in a field of its own where the replica lies below its
endpoint.

## Main definitions

- `Envelope` — the kind of access, the values and the path of the replica
- `Envelope.start`, `Envelope.put` — building an envelope
- `Envelope.ofReceived` — the envelope that a received text describes
- `Envelope.keyList` — the names of the keys, for signatures
- `Envelope.delimited`, `Envelope.markup` — the two written forms

## Main statements

- `Envelope.get?_put_self`, `Envelope.get?_put_of_ne` — a value set is found, and others stay
-/

namespace GridAccess

open Text

/-- One granted access to one replica. -/
structure Envelope where
  access : AccessKind
  fields : List (EnvelopeKey × String)
  storagePath : Option String
  deriving DecidableEq, Repr

namespace Envelope

/-- An envelope that says only which access is granted. -/
def start (access : AccessKind) (storagePath : Option String) : Envelope :=
  ⟨access, [(.access, access.name)], storagePath⟩

/-- Set the value of a key in a list that is in canonical order. -/
def putField (key : EnvelopeKey) (value : String) :
    List (EnvelopeKey × String) → List (EnvelopeKey × String)
  | [] => [(key, value)]
  | (other, old) :: rest =>
    if key.rank < other.rank then (key, value) :: (other, old) :: rest
    else if key = other then (key, value) :: rest
    else (other, old) :: putField key value rest

def put (envelope : Envelope) (key : EnvelopeKey) (value : String) : Envelope :=
  { envelope with fields := putField key value envelope.fields }

/-- Set the value of a key, if there is one. -/
def putOptional (envelope : Envelope) (key : EnvelopeKey) : Option String → Envelope
  | some value => envelope.put key value
  | none => envelope

def get? (envelope : Envelope) (key : EnvelopeKey) : Option String :=
  envelope.fields.lookup key

/-- The keys that have a value, in canonical order. -/
def keys (envelope : Envelope) : List EnvelopeKey :=
  envelope.fields.map Prod.fst

/-- The field that lists the keys. -/
def keyListName : String := "hashord"

/-- The names of the keys and of the list itself, with hyphens between them. -/
def keyList (envelope : Envelope) : String :=
  "-".intercalate (envelope.keys.map EnvelopeKey.name ++ [keyListName])

/-- The values by the names of their keys. -/
def pairs (envelope : Envelope) : List (String × String) :=
  envelope.fields.map fun field => (field.1.name, field.2)

/-- The envelope as a line of pairs, the list of keys last. -/
def delimited (envelope : Envelope) : List Char :=
  Delimited.write (envelope.pairs ++ [(keyListName, envelope.keyList)])

/-- The elements with these keys, as far as they have values. -/
def elementsOf (envelope : Envelope) (keys : List EnvelopeKey) : List (String × String) :=
  keys.filterMap fun key => (envelope.get? key).map fun value => (key.name, value)

/-- The elements of the markup form, in its own order. -/
def elements (envelope : Envelope) : List (String × String) :=
  ("access", envelope.access.elementText) :: envelope.elementsOf [.turl, .xurl, .lfn] ++
    (envelope.storagePath.map fun path => ("pfn", path)).toList ++
    envelope.elementsOf [.size, .se, .guid, .zguid, .md5]

/-- The envelope as a document between its markers. -/
def markup (envelope : Envelope) : List Char :=
  MarkupEnvelope.write envelope.elements

/-- Where the replica of a received envelope lies below its endpoint: as it says itself, or as its
location says unless that is a path of the catalogue. -/
def receivedPath (received : ReceivedEnvelope) : Option String :=
  match received.get? "pfn" with
  | some path => some path
  | none =>
    match received.get? EnvelopeKey.xurl.name with
    | some _ => none
    | none => (received.get? EnvelopeKey.turl.name).map fun location =>
        String.ofList (GridAccess.storagePath location.toList)

/-- The keys other than that of the access. -/
def valueKeys : List EnvelopeKey :=
  EnvelopeKey.canonical.filter (· ≠ .access)

/-- The envelope that a received text describes. Fields with other keys are skipped. -/
def ofReceived (received : ReceivedEnvelope) : Except EnvelopeError Envelope :=
  match received.access with
  | .error e => .error e
  | .ok access =>
    .ok <| valueKeys.foldl (fun envelope key => envelope.putOptional key (received.get? key.name))
      (start access (receivedPath received))

theorem lookup_putField_self (key : EnvelopeKey) (value : String)
    (fields : List (EnvelopeKey × String)) :
    (putField key value fields).lookup key = some value := by
  induction fields with
  | nil => simp [putField]
  | cons field rest ih =>
    obtain ⟨other, old⟩ := field
    unfold putField
    split
    · simp
    · split
      · simp
      · next hne =>
        have hkey : (key == other) = false := beq_eq_false_iff_ne.2 hne
        simp [List.lookup_cons, hkey, ih]

theorem lookup_putField_of_ne {key other : EnvelopeKey} (h : other ≠ key) (value : String)
    (fields : List (EnvelopeKey × String)) :
    (putField key value fields).lookup other = fields.lookup other := by
  have hkey : (other == key) = false := beq_eq_false_iff_ne.2 h
  induction fields with
  | nil => simp [putField, List.lookup_cons, hkey]
  | cons field rest ih =>
    obtain ⟨present, old⟩ := field
    unfold putField
    split
    · simp [List.lookup_cons, hkey]
    · split
      · next heq =>
        subst heq
        simp [List.lookup_cons, hkey]
      · simp only [List.lookup_cons, ih]

@[simp] theorem get?_put_self (envelope : Envelope) (key : EnvelopeKey) (value : String) :
    (envelope.put key value).get? key = some value :=
  lookup_putField_self key value envelope.fields

@[simp] theorem get?_put_of_ne (envelope : Envelope) {key other : EnvelopeKey} (h : other ≠ key)
    (value : String) : (envelope.put key value).get? other = envelope.get? other :=
  lookup_putField_of_ne h value envelope.fields

end Envelope

end GridAccess
