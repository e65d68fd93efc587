import GridAccess.Proofs.Envelope.Line

/-!
# Elements with white space between them

Documents need not be laid out as they are written: white space may stand around every element, and
the markers may be left out. A document is read as its elements all the same, whatever their values
hold and whatever they are called, even if that is the name of the elements around them.

## Main definitions

- `MarkupEnvelope.IsTagName` — the names that elements can have
- `MarkupEnvelope.elementText` — an element without the space around it
- `MarkupEnvelope.Spaced`, `MarkupEnvelope.Wraps` — elements, and an element around a content, with
  white space around them
- `MarkupEnvelope.IsDocument` — the documents of given elements

## Main statements

- `MarkupEnvelope.elements_elementText` — reading takes off one element and the space behind it
- `MarkupEnvelope.Spaced.elements_trim` — spaced elements are read as their fields
- `MarkupEnvelope.IsDocument.parse_eq_ok` — a document is read as its elements
- `MarkupEnvelope.parse_document` — the received envelope of a document
-/

namespace GridAccess

open Text

namespace MarkupEnvelope

/-- The names that elements can have. -/
structure IsTagName (name : List Char) : Prop where
  isName : isName name = true
  gt_not_mem : '>' ∉ name

/-- An element without the space around it. -/
def elementText (element : String × String) : List Char :=
  openingTag element.1.toList ++ Markup.escape element.2.toList ++ closingTag element.1.toList

end MarkupEnvelope

/-- The field that an element is read as. -/
def EnvelopeField.ofElement (element : String × String) : EnvelopeField :=
  ⟨element.1, String.ofList (Markup.escape element.2.toList), element.2⟩

namespace MarkupEnvelope

variable {element : String × String} {written : List (String × String)}
  {fields : List EnvelopeField} {name inner text : List Char}

/-! ## Reading elements -/

/-- A value ends at the tag that closes its element: it holds no tag itself. -/
theorem cut_closingTag (name value rest : List Char) :
    cut (closingTag name) (Markup.escape value ++ closingTag name ++ rest) =
      some (Markup.escape value, rest) :=
  cut_append_of_head_not_mem (Markup.lt_not_mem_escape value) ('/' :: name ++ ['>']) rest

/-- Reading takes off one element and the space behind it. -/
theorem elements_elementText (hname : IsTagName element.1.toList)
    (hnew : ∀ other ∈ fields, other.key ≠ element.1) (rest : List Char) :
    elements fields (elementText element ++ rest) =
      elements (fields ++ [.ofElement element]) (trimStart rest) := by
  let body := Markup.escape element.2.toList ++ closingTag element.1.toList ++ rest
  have htext : elementText element ++ rest = '<' :: (element.1.toList ++ '>' :: body) := by
    simp [elementText, openingTag, body]
  have htag : cut ['>'] (element.1.toList ++ '>' :: body) = some (element.1.toList, body) :=
    cut_singleton_eq_some_iff.2 ⟨rfl, hname.gt_not_mem⟩
  have hbody := cut_closingTag element.1.toList element.2.toList rest
  have hne : element.1 ≠ "" := by
    intro hempty
    have hisName := hname.isName
    rw [hempty] at hisName
    cases hisName
  have hadd : addElement fields element.1.toList (Markup.escape element.2.toList) =
      .ok (fields ++ [.ofElement element]) := by
    rw [addElement, Markup.unescape?_escape]
    refine addField_eq_ok_iff.2 ⟨?_, ?_, ?_⟩
    · simpa using hne
    · simpa using hnew
    · simp [EnvelopeField.ofElement]
  rw [htext, elements]
  split
  · next hnone =>
    rw [htag] at hnone
    cases hnone
  next name found hfound =>
  rw [htag] at hfound
  cases hfound
  rw [if_pos hname.isName]
  split
  · next hnone =>
    rw [hbody] at hnone
    cases hnone
  next raw more hmore =>
  rw [hbody] at hmore
  cases hmore
  simp only [hadd]

/-! ## Elements with white space -/

/-- A text of white space. -/
def IsSpace (text : List Char) : Prop :=
  ∀ c ∈ text, isBlank c = true

instance (text : List Char) : Decidable (IsSpace text) :=
  decidable_of_iff (text.all isBlank = true) List.all_eq_true

theorem isSpace_nil : IsSpace [] :=
  nofun

/-- Elements with white space before, between and behind them. -/
inductive Spaced : List (String × String) → List Char → Prop
  | nil {space : List Char} (hspace : IsSpace space) : Spaced [] space
  | cons {element : String × String} {written : List (String × String)} {space rest : List Char}
      (hspace : IsSpace space) (hrest : Spaced written rest) :
      Spaced (element :: written) (space ++ elementText element ++ rest)

theorem IsSpace.not_mem {c : Char} (h : IsSpace text) (hc : isBlank c = false) : c ∉ text := by
  intro hmem
  rw [h c hmem] at hc
  cases hc

theorem IsSpace.trimStart_append (h : IsSpace text) (rest : List Char) :
    trimStart (text ++ rest) = trimStart rest :=
  List.dropWhile_append_of_pos h

theorem IsSpace.trimStart_eq_nil (h : IsSpace text) : trimStart text = [] := by
  have hnone := h.trimStart_append []
  rwa [List.append_nil] at hnone

theorem IsSpace.trimEnd_eq_nil (h : IsSpace text) : trimEnd text = [] :=
  trimEnd_append h []

theorem trimStart_elementText (element : String × String) (rest : List Char) :
    trimStart (elementText element ++ rest) = elementText element ++ rest :=
  rfl

theorem trimEnd_elementText (element : String × String) (front back : List Char) :
    trimEnd (front ++ elementText element ++ back) =
      front ++ elementText element ++ trimEnd back := by
  have hclose : elementText element = openingTag element.1.toList ++
      Markup.escape element.2.toList ++ '<' :: '/' :: element.1.toList ++ ['>'] := by
    simp [elementText, closingTag]
  have hgt : isBlank '>' = false := rfl
  have happend := trimEnd_append_cons hgt (front ++ (openingTag element.1.toList ++
    Markup.escape element.2.toList ++ '<' :: '/' :: element.1.toList)) back
  rw [hclose]
  simpa using happend

theorem Spaced.trimEnd_spaced (h : Spaced written text) : Spaced written (trimEnd text) := by
  induction h with
  | nil hspace =>
    rw [hspace.trimEnd_eq_nil]
    exact .nil isSpace_nil
  | cons hspace _ ih =>
    rw [trimEnd_elementText]
    exact .cons hspace ih

theorem Spaced.trimStart_spaced (h : Spaced written text) : Spaced written (trimStart text) := by
  cases h with
  | nil hspace =>
    rw [hspace.trimStart_eq_nil]
    exact .nil isSpace_nil
  | cons hspace hrest =>
    rw [List.append_assoc, hspace.trimStart_append, trimStart_elementText]
    exact .cons isSpace_nil hrest

/-- Spaced elements are read as their fields, if their names are new and differ from each other. -/
theorem Spaced.elements_trimStart (h : Spaced written text)
    (hname : ∀ element ∈ written, IsTagName element.1.toList)
    (hnodup : (fields.map EnvelopeField.key ++ written.map Prod.fst).Nodup) :
    elements fields (trimStart text) = .ok (fields ++ written.map .ofElement) := by
  induction h generalizing fields with
  | nil hspace =>
    rw [hspace.trimStart_eq_nil, elements, List.map_nil, List.append_nil]
  | @cons element written space rest hspace hrest ih =>
    have hnew : ∀ other ∈ fields, other.key ≠ element.1 := by
      intro other hother
      rw [List.nodup_append] at hnodup
      exact hnodup.2.2 _ (List.mem_map_of_mem hother) _ (by simp)
    have hnext : ((fields ++ [EnvelopeField.ofElement element]).map EnvelopeField.key ++
        written.map Prod.fst).Nodup := by
      simpa [EnvelopeField.ofElement] using hnodup
    rw [List.append_assoc, hspace.trimStart_append, trimStart_elementText,
      elements_elementText (hname element (by simp)) hnew,
      ih (fun other hother => hname other (List.mem_cons_of_mem _ hother)) hnext]
    simp

/-- White space around spaced elements does not matter, that at the end included. -/
theorem Spaced.elements_trim (h : Spaced written text)
    (hname : ∀ element ∈ written, IsTagName element.1.toList)
    (hnodup : (written.map Prod.fst).Nodup) :
    elements [] (trim text) = .ok (written.map .ofElement) := by
  have htrim : trimStart (trim text) = trim text := trimStart_eq_self (isTrimmed_trim text).1
  have hspaced : Spaced written (trim text) := h.trimStart_spaced.trimEnd_spaced
  rw [← htrim, hspaced.elements_trimStart hname (by simpa using hnodup), List.nil_append]

/-! ## Documents -/

/-- An element with a content, and white space around it. -/
inductive Wraps (name inner : List Char) : List Char → Prop
  | mk {front back : List Char} (hfront : IsSpace front) (hback : IsSpace back) :
      Wraps name inner (front ++ openingTag name ++ inner ++ closingTag name ++ back)

/-- A document of some elements: they stand in the inner element of the outer element, between the
markers or without them, with white space around each part. -/
inductive IsDocument (written : List (String × String)) : List Char → Prop
  | bare {inner outer text : List Char} (hinner : Spaced written inner)
      (houter : Wraps innerName inner outer) (htext : Wraps outerName outer text) :
      IsDocument written text
  | marked {inner outer text front back : List Char} (hinner : Spaced written inner)
      (houter : Wraps innerName inner outer) (htext : Wraps outerName outer text)
      (hfront : IsSpace front) (hback : IsSpace back) :
      IsDocument written (front ++ beginMark ++ text ++ endMark ++ back)

/-- The content of an element is found, if no tag stands before it or behind it. -/
theorem inside?_append {before after : List Char} (hbefore : '<' ∉ before) (hname : '<' ∉ name)
    (hafter : '<' ∉ after) (inner : List Char) :
    inside? name (before ++ openingTag name ++ inner ++ closingTag name ++ after) = some inner := by
  have hopen : cut (openingTag name)
      (before ++ openingTag name ++ (inner ++ closingTag name ++ after)) =
        some (before, inner ++ closingTag name ++ after) :=
    cut_append_of_head_not_mem hbefore (name ++ ['>']) _
  have hagain : ¬closingTag name <:+: '/' :: name ++ ['>'] ++ after := by
    intro hoccurs
    have hmem : '<' ∈ '/' :: name ++ ['>'] ++ after := hoccurs.subset List.mem_cons_self
    simp [hname, hafter] at hmem
  have hclose : cutLast (closingTag name) (inner ++ closingTag name ++ after) =
      some (inner, after) :=
    cutLast_append_of_not_isInfix hagain inner
  have htext : before ++ openingTag name ++ inner ++ closingTag name ++ after =
      before ++ openingTag name ++ (inner ++ closingTag name ++ after) := by
    simp
  rw [htext, inside?, between, hopen]
  simp only [bind, Option.bind, hclose]
  rfl

theorem Wraps.inside?_eq (h : Wraps name inner text) (hname : '<' ∉ name) :
    inside? name text = some inner := by
  cases h with
  | mk hfront hback => exact inside?_append (hfront.not_mem rfl) hname (hback.not_mem rfl) inner

/-- An element still is one without the white space around it, and starts with its tag then. -/
theorem Wraps.trim_wraps (h : Wraps name inner text) :
    Wraps name inner (trim text) ∧ (trim text).head? = some '<' := by
  have hlast : (openingTag name ++ inner ++ closingTag name).getLast? = some '>' := by
    have hclose : closingTag name = '<' :: '/' :: name ++ ['>'] := rfl
    rw [hclose, ← List.append_assoc, List.getLast?_concat]
  have htrimmed : IsTrimmed (openingTag name ++ inner ++ closingTag name) :=
    isTrimmed_of_ends rfl hlast (by decide)
  cases h with
  | @mk front back hfront hback =>
    have htext : front ++ openingTag name ++ inner ++ closingTag name ++ back =
        front ++ (openingTag name ++ inner ++ closingTag name) ++ back := by
      simp
    have hwraps : Wraps name inner ([] ++ openingTag name ++ inner ++ closingTag name ++ []) :=
      .mk isSpace_nil isSpace_nil
    rw [List.append_nil] at hwraps
    rw [htext, trim_append_append hfront hback htrimmed]
    exact ⟨hwraps, rfl⟩

/-- The markers and the white space outside of the outer element are taken off. -/
theorem IsDocument.exists_document (h : IsDocument written text) :
    ∃ inner outer trimmed, Spaced written inner ∧ Wraps innerName inner outer ∧
      Wraps outerName outer trimmed ∧ document text = .ok trimmed := by
  cases h with
  | @bare inner outer _ hinner houter htext =>
    obtain ⟨hwraps, hhead⟩ := htext.trim_wraps
    refine ⟨inner, outer, trim text, hinner, houter, hwraps, ?_⟩
    have hstrip : stripStart? beginMark (trim text) = none := by
      rw [Option.eq_none_iff_forall_ne_some]
      intro rest hrest
      rw [stripStart?_eq_some_iff.1 hrest] at hhead
      cases hhead
    rw [document, hstrip]
  | @marked inner outer text front back hinner houter htext hfront hback =>
    refine ⟨inner, outer, trim text, hinner, houter, htext.trim_wraps.1, ?_⟩
    have hmark : ∀ front : List Char, (front ++ endMark).getLast? = some '-' := by
      intro front
      rw [List.getLast?_append]
      rfl
    have hends : IsTrimmed (beginMark ++ text ++ endMark) :=
      isTrimmed_of_ends rfl (hmark _) (by decide)
    have hparts : front ++ beginMark ++ text ++ endMark ++ back =
        front ++ (beginMark ++ text ++ endMark) ++ back := by
      simp
    have htrim : trim (front ++ beginMark ++ text ++ endMark ++ back) =
        beginMark ++ (text ++ endMark) := by
      rw [hparts, trim_append_append hfront hback hends, List.append_assoc]
    have hend : trimEnd (text ++ endMark) = text ++ endMark := by
      apply trimEnd_eq_self
      intro c hc
      rw [hmark] at hc
      cases hc
      rfl
    have hstrip : stripEnd? endMark (text ++ endMark) = some text := stripEnd?_eq_some_iff.2 rfl
    rw [document, htrim, stripStart?_append]
    simp only [hend, hstrip]

/-- A document is read as its elements, if they have different names. -/
theorem IsDocument.parse_eq_ok (h : IsDocument written text)
    (hname : ∀ element ∈ written, IsTagName element.1.toList)
    (hnodup : (written.map Prod.fst).Nodup) : parse text = .ok (written.map .ofElement) := by
  obtain ⟨inner, outer, trimmed, hinner, houter, htrimmed, hdocument⟩ := h.exists_document
  have hauthorization : inside? outerName trimmed = some outer := htrimmed.inside?_eq (by decide)
  have hfile : inside? innerName outer = some inner := houter.inside?_eq (by decide)
  rw [parse, hdocument]
  simp only [hauthorization, hfile]
  exact hinner.elements_trim hname hnodup

/-- A document holds a mark of its form. -/
theorem IsDocument.not_isUnmarked (h : IsDocument written text) : ¬IsUnmarked text := by
  have hwraps : ∀ {outer text : List Char}, Wraps outerName outer text →
      openingTag outerName <:+: text := by
    rintro outer _ ⟨_, _⟩
    simp only [List.append_assoc]
    exact List.infix_append' _ _ _
  have hmark : openingTag outerName <:+: text := by
    cases h with
    | bare _ _ htext => exact hwraps htext
    | @marked _ _ text front back _ _ htext _ _ =>
      have hinfix : text <:+: front ++ beginMark ++ text ++ (endMark ++ back) :=
        ⟨_, _, rfl⟩
      rw [← List.append_assoc] at hinfix
      exact (hwraps htext).trans hinfix
  intro hunmarked
  exact hunmarked _ (by simp [formatMarks]) hmark

/-- A document is read as its elements, whatever their values hold: the names may be any different
texts that are not empty, do not start with a slash and have no closing angle bracket. -/
theorem parse_document {text : String}
    (htags : ∀ tag ∈ written.map Prod.fst,
      tag ≠ "" ∧ tag.toList.head? ≠ some '/' ∧ '>' ∉ tag.toList)
    (hnodup : (written.map Prod.fst).Nodup) (htext : IsDocument written text.toList) :
    ReceivedEnvelope.parse text = .ok ⟨.markup, written.map .ofElement⟩ := by
  have hnames : ∀ element ∈ written, IsTagName element.1.toList := by
    intro element helement
    obtain ⟨hne, hslash, hgt⟩ := htags element.1 (List.mem_map_of_mem helement)
    refine ⟨?_, hgt⟩
    obtain ⟨c, rest, hcons⟩ := List.exists_cons_of_ne_nil (mt String.toList_eq_nil_iff.1 hne)
    rw [hcons] at hslash ⊢
    simpa [isName] using hslash
  have hformat : EnvelopeFormat.detect text.toList = .ok .markup :=
    EnvelopeFormat.detect_eq_markup_iff.2 htext.not_isUnmarked
  rw [ReceivedEnvelope.parse, hformat]
  simp only [htext.parse_eq_ok hnames hnodup]

/-- Elements with the names of those around them, and with a name that holds an opening bracket. -/
def strangeElements : List (String × String) :=
  [("file", "</file></authz>"), ("authz", "-----END ENVELOPE-----"), ("a<b", " \n ")]

/-- The elements in a layout of their own. -/
def strangeDocument : String :=
  "\n-----BEGIN ENVELOPE-----<authz>\t<file><file>&lt;/file&gt;&lt;/authz&gt;</file> \n" ++
    "<authz>-----END ENVELOPE-----</authz><a<b> \n </a<b> </file></authz> -----END ENVELOPE-----"

theorem parse_document_sample :
    IsDocument strangeElements strangeDocument.toList ∧
      ReceivedEnvelope.parse strangeDocument =
        .ok ⟨.markup, [⟨"file", "&lt;/file&gt;&lt;/authz&gt;", "</file></authz>"⟩,
          ⟨"authz", "-----END ENVELOPE-----", "-----END ENVELOPE-----"⟩,
          ⟨"a<b", " \n ", " \n "⟩]⟩ := by
  let third := [] ++ elementText ("a<b", " \n ") ++ " ".toList
  let second := " \n".toList ++ elementText ("authz", "-----END ENVELOPE-----") ++ third
  let inner := [] ++ elementText ("file", "</file></authz>") ++ second
  let outer := "\t".toList ++ openingTag innerName ++ inner ++ closingTag innerName ++ []
  let text := [] ++ openingTag outerName ++ outer ++ closingTag outerName ++ " ".toList
  have hinner : Spaced strangeElements inner :=
    .cons (by decide) (.cons (by decide) (.cons (by decide) (.nil (by decide))))
  have houter : Wraps innerName inner outer := .mk (by decide) (by decide)
  have htext : Wraps outerName outer text := .mk (by decide) (by decide)
  have hdocument : IsDocument strangeElements strangeDocument.toList := by
    have hparts : strangeDocument.toList = "\n".toList ++ beginMark ++ text ++ endMark ++ [] := by
      decide +kernel
    rw [hparts]
    exact .marked hinner houter htext (by decide) (by decide)
  exact ⟨hdocument, parse_document (by decide) (by decide) hdocument⟩

end MarkupEnvelope

end GridAccess
