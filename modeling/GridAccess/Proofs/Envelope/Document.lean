import GridAccess.Proofs.Envelope.Canonical
import GridAccess.Proofs.Envelope.Elements

/-!
# Documents of envelopes

A document that is written is one that can be read, so it is read back as its elements. The markup
form says everything about an envelope, and where it does not say the path of the replica, the
values do not tell it either.

## Main definitions

- `MarkupEnvelope.elementLine`, `MarkupEnvelope.lines` — the layout that is written
- `Envelope.elementNames` — the names of an envelope's elements in their order

## Main statements

- `MarkupEnvelope.isDocument_write` — what is written is a document of its elements
- `MarkupEnvelope.parse_write` — a document is read back as its elements
- `Envelope.lookup_elements` — the elements tell every value
- `Envelope.ofReceived_elements` — the elements of an obtainable envelope describe it
- `Envelope.markup_read_back` — an obtainable envelope is read back from its document
-/

namespace GridAccess

open Text

namespace MarkupEnvelope

variable {written : List (String × String)}

/-! ## The written layout -/

/-- An element with the start of its line in front. -/
def elementLine (element : String × String) : List Char :=
  '\n' :: "    ".toList ++ elementText element

/-- The lines of a document without its markers. -/
def lines (written : List (String × String)) : List Char :=
  openingTag outerName ++ "\n  ".toList ++ openingTag innerName ++
    (written.flatMap elementLine ++ "\n  ".toList) ++ closingTag innerName ++ '\n' ::
    closingTag outerName

theorem write_eq (written : List (String × String)) :
    write written = beginMark ++ '\n' :: lines written ++ '\n' :: endMark ++ ['\n'] := by
  have hlines : ∀ written : List (String × String), '\n' :: written.flatMap writeElement =
      written.flatMap elementLine ++ ['\n'] := by
    intro written
    induction written with
    | nil => rfl
    | cons element written ih =>
      have hline : '\n' :: writeElement element = elementLine element ++ ['\n'] := by
        unfold writeElement elementLine elementText
        generalize "    ".toList = indent
        simp
      rw [List.flatMap_cons, List.flatMap_cons, ← List.cons_append, hline, List.append_assoc,
        List.singleton_append, ih, List.append_assoc]
  have hindent : "\n  ".toList = '\n' :: "  ".toList := rfl
  rw [write, hlines, lines, hindent]
  generalize "  ".toList = indent
  simp

theorem spaced_elementLines (written : List (String × String)) :
    Spaced written (written.flatMap elementLine ++ "\n  ".toList) := by
  induction written with
  | nil => exact .nil (by decide)
  | cons element written ih =>
    rw [List.flatMap_cons, List.append_assoc]
    exact .cons (by decide : IsSpace ('\n' :: "    ".toList)) ih

/-- What is written is a document of its elements. -/
theorem isDocument_write (written : List (String × String)) :
    IsDocument written (write written) := by
  let inner := written.flatMap elementLine ++ "\n  ".toList
  let outer := "\n  ".toList ++ openingTag innerName ++ inner ++ closingTag innerName ++ ['\n']
  let text := ['\n'] ++ openingTag outerName ++ outer ++ closingTag outerName ++ ['\n']
  have houter : Wraps innerName inner outer := .mk (by decide) (by decide)
  have htext : Wraps outerName outer text := .mk (by decide) (by decide)
  have hparts : write written = [] ++ beginMark ++ text ++ endMark ++ ['\n'] := by
    simp [write_eq, lines, text, outer, inner]
  rw [hparts]
  exact .marked (spaced_elementLines written) houter htext (by decide) (by decide)

/-- A document is read back as its elements, if they have different names. -/
theorem parse_write (hname : ∀ element ∈ written, IsTagName element.1.toList)
    (hnodup : (written.map Prod.fst).Nodup) :
    parse (write written) = .ok (written.map .ofElement) :=
  (isDocument_write written).parse_eq_ok hname hnodup

end MarkupEnvelope

/-! ## Envelopes as documents -/

/-- The elements of a document tell the value that was written for a name. -/
theorem ReceivedEnvelope.get?_ofElements (format : EnvelopeFormat)
    (written : List (String × String)) (name : String) :
    (⟨format, written.map .ofElement⟩ : ReceivedEnvelope).get? name = written.lookup name := by
  rw [get?, findField?]
  induction written with
  | nil => rfl
  | cons element written ih =>
    rw [List.map_cons, List.find?_cons, List.lookup_cons, EnvelopeField.ofElement]
    by_cases hname : element.1 = name
    · simp [hname]
    · have hfield : (element.1 == name) = false := beq_eq_false_iff_ne.2 hname
      have helement : (name == element.1) = false := beq_eq_false_iff_ne.2 (Ne.symm hname)
      simp only [hfield, helement, ih]

namespace Envelope

variable {envelope : Envelope} {keys : List EnvelopeKey}

/-- The names of elements in their order. -/
def elementNames : List String :=
  ["access", "turl", "xurl", "lfn", "pfn", "size", "se", "guid", "zguid", "md5"]

theorem isTagName_of_mem_elementNames {name : String} (h : name ∈ elementNames) :
    MarkupEnvelope.IsTagName name.toList := by
  have hall : ∀ name ∈ elementNames,
      MarkupEnvelope.isName name.toList = true ∧ '>' ∉ name.toList := by
    decide
  exact ⟨(hall name h).1, (hall name h).2⟩

theorem elementsOf_names_sublist (envelope : Envelope) (keys : List EnvelopeKey) :
    ((envelope.elementsOf keys).map Prod.fst).Sublist (keys.map EnvelopeKey.name) := by
  induction keys with
  | nil => exact List.Sublist.slnil
  | cons key keys ih =>
    rw [elementsOf, List.filterMap_cons]
    cases envelope.get? key with
    | none => exact ih.cons _
    | some value => exact ih.cons_cons _

/-- Each name is that of one element at most. -/
theorem elements_names_sublist (envelope : Envelope) :
    (envelope.elements.map Prod.fst).Sublist elementNames := by
  have hpath : ((envelope.storagePath.map fun path => ("pfn", path)).toList.map
      Prod.fst).Sublist ["pfn"] := by
    cases envelope.storagePath with
    | none => exact List.nil_sublist _
    | some path => exact List.Sublist.refl _
  have hfront := (envelope.elementsOf_names_sublist [.turl, .xurl, .lfn]).cons_cons "access"
  have hback := envelope.elementsOf_names_sublist [.size, .se, .guid, .zguid, .md5]
  rw [elements, List.map_append, List.map_append, List.map_cons]
  exact (hfront.append hpath).append hback

theorem lookup_elementsOf (envelope : Envelope) (keys : List EnvelopeKey) (key : EnvelopeKey) :
    (envelope.elementsOf keys).lookup key.name =
      if key ∈ keys then envelope.get? key else none := by
  induction keys with
  | nil => rfl
  | cons first keys ih =>
    rw [elementsOf, List.filterMap_cons, ← elementsOf]
    by_cases hkey : key = first
    · subst hkey
      cases hvalue : envelope.get? key with
      | none =>
        rw [Option.map_none, ih, hvalue]
        simp
      | some value => simp
    · have hname : (key.name == first.name) = false :=
        beq_eq_false_iff_ne.2 fun heq => hkey (EnvelopeKey.name_injective heq)
      cases envelope.get? first with
      | none =>
        rw [Option.map_none, ih]
        simp [hkey]
      | some value => simp only [Option.map_some, List.lookup_cons, hname, ih, List.mem_cons, hkey,
          false_or]

theorem lookup_elementsOf_pfn (envelope : Envelope) (keys : List EnvelopeKey) :
    (envelope.elementsOf keys).lookup "pfn" = none := by
  refine List.lookup_eq_none_iff.2 ?_
  intro element helement
  have hname := (envelope.elementsOf_names_sublist keys).subset (List.mem_map_of_mem helement)
  obtain ⟨key, -, hkey⟩ := List.mem_map.1 hname
  rw [← hkey]
  cases key <;> decide

/-- The elements tell every value of an envelope, apart from the access, which has a spelling of its
own. -/
theorem lookup_elements (envelope : Envelope) {key : EnvelopeKey} (hkey : key ≠ .access) :
    envelope.elements.lookup key.name = envelope.get? key := by
  have hpath : (envelope.storagePath.map fun path => ("pfn", path)).toList.lookup key.name =
      none := by
    cases envelope.storagePath with
    | none => rfl
    | some path => cases key <;> rfl
  have haccess : (key.name == "access") = false :=
    beq_eq_false_iff_ne.2 fun heq => hkey (EnvelopeKey.name_injective heq)
  rw [elements, List.lookup_append, List.lookup_append, List.lookup_cons, haccess, hpath,
    lookup_elementsOf, lookup_elementsOf]
  cases key with
  | access => exact absurd rfl hkey
  | turl | xurl | lfn => simp
  | guid | zguid | size | md5 | se => simp

theorem lookup_elements_access (envelope : Envelope) :
    envelope.elements.lookup "access" = some envelope.access.elementText :=
  rfl

theorem lookup_elements_pfn (envelope : Envelope) :
    envelope.elements.lookup "pfn" = envelope.storagePath := by
  have haccess : ("pfn" == "access") = false := by decide
  rw [elements, List.lookup_append, List.lookup_append, List.lookup_cons, haccess,
    lookup_elementsOf_pfn, lookup_elementsOf_pfn]
  cases envelope.storagePath <;> rfl

theorem not_isUnmarked_markup (envelope : Envelope) : ¬IsUnmarked envelope.markup :=
  (MarkupEnvelope.isDocument_write envelope.elements).not_isUnmarked

/-- The document of an envelope is read as its elements. -/
theorem parse_markup (envelope : Envelope) :
    ReceivedEnvelope.parse (String.ofList envelope.markup) =
      .ok ⟨.markup, envelope.elements.map .ofElement⟩ := by
  have hnames := envelope.elements_names_sublist
  have hfields : MarkupEnvelope.parse envelope.markup = .ok (envelope.elements.map .ofElement) := by
    apply MarkupEnvelope.parse_write
    · intro element helement
      exact isTagName_of_mem_elementNames (hnames.subset (List.mem_map_of_mem helement))
    · exact hnames.nodup (by decide)
  have hformat : EnvelopeFormat.detect envelope.markup = .ok .markup :=
    EnvelopeFormat.detect_eq_markup_iff.2 envelope.not_isUnmarked_markup
  rw [ReceivedEnvelope.parse, String.toList_ofList, hformat]
  simp only [hfields]

/-- The elements of an obtainable envelope describe that envelope. -/
theorem ofReceived_elements (h : envelope.Obtainable) :
    ofReceived ⟨.markup, envelope.elements.map .ofElement⟩ = .ok envelope := by
  let received : ReceivedEnvelope := ⟨.markup, envelope.elements.map .ofElement⟩
  have hvalue : ∀ name, received.get? name = envelope.elements.lookup name :=
    ReceivedEnvelope.get?_ofElements .markup envelope.elements
  have haccess : received.access = .ok envelope.access := by
    simp only [ReceivedEnvelope.access, hvalue, lookup_elements_access,
      AccessKind.parse_elementText]
  have hget : ∀ key ≠ .access, received.get? key.name = envelope.get? key := by
    intro key hkey
    rw [hvalue, lookup_elements envelope hkey]
  have hpfn : received.get? "pfn" = envelope.storagePath := by
    rw [hvalue, lookup_elements_pfn]
  have hpath : receivedPath received = envelope.storagePath := by
    cases hstored : envelope.storagePath with
    | some path => simp only [receivedPath, hpfn, hstored]
    | none =>
      -- The text does not say the path, and the values of such an envelope do not tell one.
      rw [receivedPath_eq_deliveredPath (hpfn.trans hstored) hget, h.deliveredPath_eq_none hstored]
  rw [h.isCanonical.ofReceived_eq haccess hget, hpath]

/-- An obtainable envelope is read back from its document, whatever its values hold: as a document,
and as the envelope that it is, with the path of the replica if and only if it had one. -/
theorem markup_read_back (h : envelope.Obtainable) :
    ∃ received, ReceivedEnvelope.parse (String.ofList envelope.markup) = .ok received ∧
      received.format = .markup ∧ ofReceived received = .ok envelope :=
  ⟨_, envelope.parse_markup, rfl, ofReceived_elements h⟩

/-- A replica with a location that looks like the document around it. -/
def markedTarget : EnvelopeTarget where
  file := .register ⟨1⟩ 42 none "alice" "alice"
  replica := ⟨⟨1⟩, 1, " </turl>\n</file> & \"<pfn>\" -----END ENVELOPE-----\n"⟩
  element := .basic 1 "ALICE::EXAMPLE::DISK" "root://disk.example:1094" "/data"
  path := none

theorem markup_read_back_sample :
    ∃ received, ReceivedEnvelope.parse (String.ofList (build .write markedTarget none).markup) =
        .ok received ∧
      received.format = .markup ∧ ofReceived received = .ok (build .write markedTarget none) ∧
      (build .write markedTarget none).get? .turl = some markedTarget.replica.location := by
  obtain ⟨received, hparse, hformat, henvelope⟩ :=
    markup_read_back (.build .write markedTarget none)
  exact ⟨received, hparse, hformat, henvelope, by decide⟩

end Envelope

end GridAccess
