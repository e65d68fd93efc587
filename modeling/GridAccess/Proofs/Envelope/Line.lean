import GridAccess.Envelope.Received
import GridAccess.Proofs.Result
import GridAccess.Proofs.Text.Escapes
import GridAccess.Proofs.Text.Occurrence
import Mathlib.Data.List.Nodup

/-!
# Lines of pairs

A delimited envelope is a line of pairs as they are written. Its fields and the line determine each
other: a text is read as some fields exactly if it is their line, up to white space around it.

## Main definitions

- `rawLine` — pairs as they are written, with ampersands between them
- `IsPair` — a pair whose key and value can be told apart in a line
- `IsLine` — fields that a line can have
- `IsUnmarked` — a text without the marks of the markup form

## Main statements

- `rawLine_injective` — a line determines its pairs
- `Delimited.parse_eq_ok_iff` — which fields a line has
- `Delimited.isLine_map_ofWritten`, `Delimited.parse_eq_error_of_unescape?` — pairs whose values can
  be read make a line, and a line is refused for the first value that cannot
- `isUnmarked_rawLine_iff` — a line is unmarked exactly if its keys and values are
- `isUnmarked_escape_iff` — a value is unmarked as it is written exactly if it is
- `EnvelopeFormat.detect_eq_markup_iff`, `EnvelopeFormat.detect_eq_delimited_iff` — the form of a
  text
- `ReceivedEnvelope.parse_eq_ok_delimited_iff` — which texts are read as delimited envelopes
-/

namespace GridAccess

open Text

namespace Delimited

/-- A key and a value as it is written. -/
def rawPair (pair : String × String) : List Char :=
  pair.1.toList ++ '=' :: pair.2.toList

/-- Pairs as they are written, with ampersands between them. -/
def rawLine (pairs : List (String × String)) : List Char :=
  ['&'].intercalate (pairs.map rawPair)

/-- A pair whose key and value can be told apart in a line. -/
structure IsPair (pair : String × String) : Prop where
  key_ne_empty : pair.1 ≠ ""
  equals_not_mem : '=' ∉ pair.1.toList
  amp_not_mem_key : '&' ∉ pair.1.toList
  amp_not_mem_value : '&' ∉ pair.2.toList

variable {pair : String × String} {pairs : List (String × String)}

theorem IsPair.amp_not_mem (h : IsPair pair) : '&' ∉ rawPair pair := by
  simp only [rawPair, List.mem_append, List.mem_cons, not_or]
  exact ⟨h.amp_not_mem_key, by decide, h.amp_not_mem_value⟩

theorem cut_rawPair (h : '=' ∉ pair.1.toList) :
    cut ['='] (rawPair pair) = some (pair.1.toList, pair.2.toList) :=
  cut_singleton_eq_some_iff.2 ⟨rfl, h⟩

theorem rawPair_injective {a b : String × String} (ha : '=' ∉ a.1.toList) (hb : '=' ∉ b.1.toList)
    (h : rawPair a = rawPair b) : a = b := by
  have hcut := cut_rawPair ha
  rw [h, cut_rawPair hb, Option.some.injEq, Prod.mk.injEq] at hcut
  obtain ⟨hkey, hvalue⟩ := hcut
  exact Prod.ext (String.toList_injective hkey.symm) (String.toList_injective hvalue.symm)

theorem splitOn_rawLine (hne : pairs ≠ []) (h : ∀ pair ∈ pairs, IsPair pair) :
    (rawLine pairs).splitOn '&' = pairs.map rawPair := by
  apply List.splitOn_intercalate
  · intro piece hpiece
    obtain ⟨pair, hpair, rfl⟩ := List.mem_map.1 hpiece
    exact (h pair hpair).amp_not_mem
  · simpa using hne

theorem rawLine_injective {a b : List (String × String)} (hane : a ≠ []) (hbne : b ≠ [])
    (ha : ∀ pair ∈ a, IsPair pair) (hb : ∀ pair ∈ b, IsPair pair)
    (h : rawLine a = rawLine b) : a = b := by
  have hsplit := splitOn_rawLine hane ha
  rw [h, splitOn_rawLine hbne hb] at hsplit
  -- What is left is about the pieces, and they may run out in the induction.
  clear h hane hbne
  induction a generalizing b with
  | nil => exact (List.map_eq_nil_iff.1 hsplit).symm
  | cons pair a ih =>
    cases b with
    | nil => cases hsplit
    | cons other b =>
      rw [List.map_cons, List.map_cons, List.cons.injEq] at hsplit
      have hpair : pair = other :=
        rawPair_injective (ha pair (by simp)).equals_not_mem (hb other (by simp)).equals_not_mem
          hsplit.1.symm
      have hrest : a = b := by
        apply ih
        · intro p hp
          exact ha p (List.mem_cons_of_mem _ hp)
        · intro p hp
          exact hb p (List.mem_cons_of_mem _ hp)
        · exact hsplit.2
      rw [hpair, hrest]

theorem rawLine_append {a b : List (String × String)} (ha : a ≠ []) (hb : b ≠ []) :
    rawLine (a ++ b) = rawLine a ++ '&' :: rawLine b := by
  induction a with
  | nil => exact absurd rfl ha
  | cons pair a ih =>
    have hbmap : b.map rawPair ≠ [] := by simpa using hb
    cases a with
    | nil =>
      simp only [rawLine, List.cons_append, List.nil_append, List.map_cons, List.map_nil]
      rw [List.intercalate_cons_of_ne_nil hbmap]
      simp
    | cons other a =>
      have hrest := ih (List.cons_ne_nil _ _)
      simp only [rawLine, List.cons_append, List.map_cons] at hrest ⊢
      rw [List.intercalate_cons_cons, List.intercalate_cons_cons, hrest]
      simp

/-- Every line holds an equals sign. -/
theorem equals_mem_rawLine (hne : pairs ≠ []) : '=' ∈ rawLine pairs := by
  obtain ⟨pair, rest, rfl⟩ := List.exists_cons_of_ne_nil hne
  rw [rawLine, List.map_cons]
  cases rest with
  | nil => simp [rawPair]
  | cons other rest =>
    rw [List.map_cons, List.intercalate_cons_cons]
    simp [rawPair]

/-- The pairs of a line written with escaped values. -/
def escapedPair (pair : String × String) : String × String :=
  (pair.1, String.ofList (Percent.escape pair.2.toList))

/-- Writing pairs gives the line of these pairs with their values escaped. -/
theorem write_eq_rawLine (pairs : List (String × String)) :
    write pairs = rawLine (pairs.map escapedPair) := by
  rw [write, rawLine, List.map_map]
  congr 2
  funext pair
  simp [writePair, rawPair, escapedPair]

/-! ## Ends of lines -/

theorem head?_rawLine (h : pair.1 ≠ "") (rest : List (String × String)) :
    (rawLine (pair :: rest)).head? = pair.1.toList.head? := by
  obtain ⟨c, key, hkey⟩ : ∃ c key, pair.1.toList = c :: key := by
    apply List.exists_cons_of_ne_nil
    intro hnil
    exact h (String.toList_injective hnil)
  cases rest with
  | nil => simp [rawLine, rawPair, hkey]
  | cons other rest =>
    rw [rawLine, List.map_cons, List.map_cons, List.intercalate_cons_cons]
    simp [rawPair, hkey]

/-- A line ends with its last value, or with an equals sign if that is empty. -/
theorem getLast?_rawLine (front : List (String × String)) (pair : String × String) :
    (rawLine (front ++ [pair])).getLast? = some (pair.2.toList.getLast?.getD '=') := by
  have hpair : (rawPair pair).getLast? = some (pair.2.toList.getLast?.getD '=') := by
    rw [rawPair, List.getLast?_append, List.getLast?_cons]
    simp
  cases front with
  | nil => simpa [rawLine] using hpair
  | cons first front =>
    have hline : rawLine [pair] = rawPair pair := by simp [rawLine]
    rw [rawLine_append (List.cons_ne_nil _ _) (List.cons_ne_nil _ _), List.getLast?_append,
      List.getLast?_cons, hline, hpair]
    simp

/-- A line has no white space at its ends exactly if its first key does not start with any and its
last value does not end with any. -/
theorem isTrimmed_rawLine_iff (hne : pairs ≠ []) (hkeys : ∀ pair ∈ pairs, pair.1 ≠ "") :
    IsTrimmed (rawLine pairs) ↔
      (∀ pair ∈ pairs.head?, ∀ c ∈ pair.1.toList.head?, isBlank c = false) ∧
        ∀ pair ∈ pairs.getLast?, ∀ c ∈ pair.2.toList.getLast?, isBlank c = false := by
  have hstart : (∀ c ∈ (rawLine pairs).head?, isBlank c = false) ↔
      ∀ pair ∈ pairs.head?, ∀ c ∈ pair.1.toList.head?, isBlank c = false := by
    obtain ⟨first, rest, rfl⟩ := List.exists_cons_of_ne_nil hne
    rw [head?_rawLine (hkeys first (by simp))]
    simp
  have hend : (∀ c ∈ (rawLine pairs).getLast?, isBlank c = false) ↔
      ∀ pair ∈ pairs.getLast?, ∀ c ∈ pair.2.toList.getLast?, isBlank c = false := by
    rcases List.eq_nil_or_concat pairs with rfl | ⟨front, last, rfl⟩
    · exact absurd rfl hne
    · rw [List.concat_eq_append, getLast?_rawLine]
      cases hlast : last.2.toList.getLast? with
      | none => simp [hlast, isBlank]
      | some c => simp [hlast]
  rw [IsTrimmed, hstart, hend]

end Delimited

/-! ## Reading lines -/

def EnvelopeField.written (field : EnvelopeField) : String × String :=
  (field.key, field.raw)

/-- The field that a pair is read as, if its value can be read. -/
def EnvelopeField.ofWritten (pair : String × String) : EnvelopeField :=
  ⟨pair.1, pair.2, (Percent.unescape? pair.2).getD ""⟩

namespace Delimited

/-- Fields that a line can have: their keys differ, and what is written denotes the values. -/
structure IsLine (fields : List EnvelopeField) : Prop where
  ne_nil : fields ≠ []
  isPair : ∀ field ∈ fields, IsPair field.written
  unescape : ∀ field ∈ fields, Percent.unescape? field.raw = some field.value
  nodup : (fields.map EnvelopeField.key).Nodup

theorem nodup_keys_concat {fields : List EnvelopeField} {field : EnvelopeField}
    (h : (fields.map EnvelopeField.key).Nodup) (hnew : field.key ∉ fields.map EnvelopeField.key) :
    ((fields ++ [field]).map EnvelopeField.key).Nodup := by
  rw [List.map_append, List.map_singleton, ← List.concat_eq_append]
  exact h.concat hnew

/-- A field is read from its written form and from nothing else. -/
theorem fieldOf_eq_ok_iff {piece : List Char} {field : EnvelopeField} :
    fieldOf piece = .ok field ↔
      piece = rawPair field.written ∧ '=' ∉ field.key.toList ∧
        Percent.unescape? field.raw = some field.value := by
  constructor
  · intro h
    rw [fieldOf] at h
    split at h
    · cases h
    next key raw hcut =>
    split at h
    · next value hvalue =>
      cases h
      obtain ⟨hpiece, hkey⟩ := cut_singleton_eq_some_iff.1 hcut
      refine ⟨?_, ?_, hvalue⟩
      · simpa [rawPair, EnvelopeField.written] using hpiece
      · simpa using hkey
    · cases h
  · rintro ⟨rfl, hkey, hvalue⟩
    rw [fieldOf, cut_rawPair hkey]
    simp [EnvelopeField.written, hvalue]

theorem addPair_eq_ok_iff {fields result : List EnvelopeField} {piece : List Char} :
    addPair fields piece = .ok result ↔
      ∃ field, fieldOf piece = .ok field ∧ field.key ≠ "" ∧
        (∀ other ∈ fields, other.key ≠ field.key) ∧ result = fields ++ [field] := by
  rw [addPair]
  cases hfield : fieldOf piece with
  | error e => simp
  | ok field => simp [addField_eq_ok_iff]

/-- The fields that are read from pieces are those written there, if their keys are new and differ
from each other. -/
theorem foldlM_addPair_eq_ok_iff {start result : List EnvelopeField} {pieces : List (List Char)}
    (hstart : (start.map EnvelopeField.key).Nodup) :
    pieces.foldlM addPair start = .ok result ↔
      ∃ more, result = start ++ more ∧ pieces = more.map (fun field => rawPair field.written) ∧
        (∀ field ∈ more, field.key ≠ "" ∧ '=' ∉ field.key.toList ∧
          Percent.unescape? field.raw = some field.value) ∧
        (result.map EnvelopeField.key).Nodup := by
  -- The fields read so far are a part of the result, so the induction is over all of them at once.
  induction pieces generalizing start with
  | nil =>
    constructor
    · intro h
      cases h
      exact ⟨[], by simp, rfl, by simp, hstart⟩
    · rintro ⟨more, rfl, hmore, -, -⟩
      rw [List.map_eq_nil_iff.1 hmore.symm, List.append_nil]
      rfl
  | cons piece pieces ih =>
    constructor
    · intro h
      rw [List.foldlM_cons, bind_eq_ok_iff] at h
      obtain ⟨next, hadd, h⟩ := h
      obtain ⟨field, hfield, hempty, hnew, rfl⟩ := addPair_eq_ok_iff.1 hadd
      obtain ⟨hpiece, hequals, hvalue⟩ := fieldOf_eq_ok_iff.1 hfield
      have hnext : ((start ++ [field]).map EnvelopeField.key).Nodup := by
        apply nodup_keys_concat hstart
        intro hmem
        obtain ⟨other, hother, hsame⟩ := List.mem_map.1 hmem
        exact hnew other hother hsame
      obtain ⟨more, rfl, hpieces, hmore, hnodup⟩ := (ih hnext).1 h
      refine ⟨field :: more, by simp, by rw [hpiece, hpieces, List.map_cons], ?_, hnodup⟩
      intro other hother
      rcases List.mem_cons.1 hother with rfl | hother
      · exact ⟨hempty, hequals, hvalue⟩
      · exact hmore other hother
    · rintro ⟨more, rfl, hpieces, hmore, hnodup⟩
      cases more with
      | nil => cases hpieces
      | cons field more =>
        rw [List.map_cons, List.cons.injEq] at hpieces
        obtain ⟨hempty, hequals, hvalue⟩ := hmore field (by simp)
        have hsplit : start ++ field :: more = start ++ [field] ++ more := by simp
        have hnext : ((start ++ [field]).map EnvelopeField.key).Nodup := by
          rw [hsplit] at hnodup
          exact List.Nodup.sublist ((List.sublist_append_left _ _).map _) hnodup
        have hnew : ∀ other ∈ start, other.key ≠ field.key := by
          intro other hother
          rw [List.map_append, List.nodup_append] at hnext
          exact hnext.2.2 other.key (List.mem_map_of_mem hother) field.key (by simp)
        have hadd : addPair start piece = .ok (start ++ [field]) :=
          addPair_eq_ok_iff.2 ⟨field, fieldOf_eq_ok_iff.2 ⟨hpieces.1, hequals, hvalue⟩, hempty,
            hnew, rfl⟩
        rw [List.foldlM_cons, hadd]
        refine (ih hnext).2 ⟨more, hsplit, hpieces.2, ?_, hnodup⟩
        intro other hother
        exact hmore other (List.mem_cons_of_mem _ hother)

/-- A text is read as some fields exactly if it is their line, up to white space around it. -/
theorem parse_eq_ok_iff {text : List Char} {fields : List EnvelopeField} :
    parse text = .ok fields ↔
      IsLine fields ∧ trim text = rawLine (fields.map EnvelopeField.written) := by
  rw [parse, foldlM_addPair_eq_ok_iff (by simp)]
  constructor
  · rintro ⟨more, rfl, hpieces, hmore, hnodup⟩
    refine ⟨⟨?_, ?_, ?_, hnodup⟩, ?_⟩
    · intro hnil
      rw [hnil] at hpieces
      exact List.splitOn_ne_nil _ _ hpieces
    · intro field hfield
      obtain ⟨hempty, hequals, -⟩ := hmore field hfield
      have hpiece : rawPair field.written ∈ (trim text).splitOn '&' := by
        rw [hpieces]
        exact List.mem_map_of_mem hfield
      have hamp := not_mem_of_mem_splitOn hpiece
      simp only [rawPair, List.mem_append, List.mem_cons, not_or] at hamp
      exact ⟨hempty, hequals, hamp.1, hamp.2.2⟩
    · intro field hfield
      exact (hmore field hfield).2.2
    · have hjoin : ['&'].intercalate ((trim text).splitOn '&') = trim text :=
        List.intercalate_splitOn '&'
      rw [rawLine, List.map_map]
      rw [hpieces] at hjoin
      exact hjoin.symm
  · rintro ⟨hline, htext⟩
    refine ⟨fields, rfl, ?_, ?_, hline.nodup⟩
    · rw [htext, splitOn_rawLine (by simpa using hline.ne_nil), List.map_map]
      · rfl
      · intro pair hpair
        obtain ⟨field, hfield, rfl⟩ := List.mem_map.1 hpair
        exact hline.isPair field hfield
    · intro field hfield
      have hpair := hline.isPair field hfield
      exact ⟨hpair.key_ne_empty, hpair.equals_not_mem, hline.unescape field hfield⟩

/-! ### Lines of given pairs -/

section Pairs

variable {pairs front back : List (String × String)} {pair : String × String}

theorem map_written_map_ofWritten (pairs : List (String × String)) :
    (pairs.map EnvelopeField.ofWritten).map EnvelopeField.written = pairs := by
  rw [List.map_map]
  exact List.map_id pairs

theorem keys_map_ofWritten (pairs : List (String × String)) :
    (pairs.map EnvelopeField.ofWritten).map EnvelopeField.key = pairs.map Prod.fst := by
  rw [List.map_map]
  rfl

theorem unescape?_ofWritten (h : (Percent.unescape? pair.2).isSome) :
    Percent.unescape? (EnvelopeField.ofWritten pair).raw =
      some (EnvelopeField.ofWritten pair).value := by
  obtain ⟨value, hvalue⟩ := Option.isSome_iff_exists.1 h
  simp [EnvelopeField.ofWritten, hvalue]

/-- Pairs with different keys and readable values are the line of their fields. -/
theorem isLine_map_ofWritten (hne : pairs ≠ []) (hpairs : ∀ pair ∈ pairs, IsPair pair)
    (hvalues : ∀ pair ∈ pairs, (Percent.unescape? pair.2).isSome)
    (hnodup : (pairs.map Prod.fst).Nodup) : IsLine (pairs.map EnvelopeField.ofWritten) where
  ne_nil := by simpa using hne
  isPair := by
    intro field hfield
    obtain ⟨pair, hpair, rfl⟩ := List.mem_map.1 hfield
    exact hpairs pair hpair
  unescape := by
    intro field hfield
    obtain ⟨pair, hpair, rfl⟩ := List.mem_map.1 hfield
    exact unescape?_ofWritten (hvalues pair hpair)
  nodup := by
    rwa [keys_map_ofWritten]

/-- The first pair whose value cannot be read is what a line is refused for. -/
theorem parse_eq_error_of_unescape? {text : List Char}
    (htext : trim text = rawLine (front ++ pair :: back))
    (hpairs : ∀ other ∈ front ++ pair :: back, IsPair other)
    (hnodup : (front.map Prod.fst).Nodup)
    (hfront : ∀ other ∈ front, (Percent.unescape? other.2).isSome)
    (hpair : Percent.unescape? pair.2 = none) :
    parse text = .error (.invalidEscape pair.2) := by
  have hread : (front.map rawPair).foldlM addPair [] =
      .ok (front.map EnvelopeField.ofWritten) := by
    refine (foldlM_addPair_eq_ok_iff (by simp)).2
      ⟨front.map EnvelopeField.ofWritten, rfl, ?_, ?_, ?_⟩
    · rw [List.map_map]
      rfl
    · intro field hfield
      obtain ⟨other, hother, rfl⟩ := List.mem_map.1 hfield
      have hplain := hpairs other (List.mem_append_left _ hother)
      exact ⟨hplain.key_ne_empty, hplain.equals_not_mem, unescape?_ofWritten (hfront other hother)⟩
    · rwa [keys_map_ofWritten]
  have hrefused : ∀ fields, addPair fields (rawPair pair) = .error (.invalidEscape pair.2) := by
    intro fields
    have hkey := (hpairs pair (by simp)).equals_not_mem
    rw [addPair, fieldOf, cut_rawPair hkey]
    simp only [String.ofList_toList, hpair]
  rw [parse, htext, splitOn_rawLine (by simp) hpairs, List.map_append, List.map_cons,
    foldlM_eq_error_iff]
  exact ⟨_, _, _, _, rfl, hread, hrefused _⟩

end Pairs

end Delimited

/-! ## Fields by their keys -/

/-- Among fields with different keys, the field that is found is the one with the key. -/
theorem findField?_eq_some_iff {key : String} {fields : List EnvelopeField} {field : EnvelopeField}
    (hnodup : (fields.map EnvelopeField.key).Nodup) :
    findField? key fields = some field ↔ field ∈ fields ∧ field.key = key := by
  induction fields with
  | nil => simp [findField?]
  | cons first rest ih =>
    rw [List.map_cons, List.nodup_cons] at hnodup
    obtain ⟨hfirst, hrest⟩ := hnodup
    rw [findField?, List.find?_cons]
    by_cases hkey : first.key = key
    · have hfound : (first.key == key) = true := beq_iff_eq.2 hkey
      rw [hfound]
      constructor
      · intro h
        cases h
        exact ⟨by simp, hkey⟩
      · rintro ⟨hmem, hfield⟩
        rcases List.mem_cons.1 hmem with rfl | hmem
        · rfl
        · exact absurd (hkey.trans hfield.symm ▸ List.mem_map_of_mem hmem) hfirst
    · have hfound : (first.key == key) = false := beq_eq_false_iff_ne.2 hkey
      rw [hfound]
      constructor
      · intro h
        obtain ⟨hmem, hfield⟩ := (ih hrest).1 h
        exact ⟨List.mem_cons_of_mem _ hmem, hfield⟩
      · rintro ⟨hmem, hfield⟩
        rcases List.mem_cons.1 hmem with rfl | hmem
        · exact absurd hfield hkey
        · exact (ih hrest).2 ⟨hmem, hfield⟩

theorem findField?_eq_none_iff {key : String} {fields : List EnvelopeField} :
    findField? key fields = none ↔ ∀ field ∈ fields, field.key ≠ key := by
  simp [findField?]

/-! ## Telling the two forms apart -/

/-- The marks of the markup form. -/
def formatMarks : List (List Char) :=
  ["BEGIN ENVELOPE".toList, MarkupEnvelope.openingTag MarkupEnvelope.outerName]

/-- A text without a mark of the markup form. -/
def IsUnmarked (text : List Char) : Prop :=
  ∀ mark ∈ formatMarks, ¬mark <:+: text

instance (text : List Char) : Decidable (IsUnmarked text) :=
  inferInstanceAs (Decidable (∀ mark ∈ formatMarks, ¬mark <:+: text))

theorem IsUnmarked.of_isInfix {part text : List Char} (h : IsUnmarked text)
    (hpart : part <:+: text) : IsUnmarked part := by
  intro mark hmark hoccurs
  exact h mark hmark (hoccurs.trans hpart)

/-- Escapes neither make nor break a mark of the markup form. -/
theorem isUnmarked_escape_iff (text : List Char) :
    IsUnmarked (Percent.escape text) ↔ IsUnmarked text := by
  have hmarks : ∀ mark ∈ formatMarks, mark ≠ [] ∧ Percent.involved ∩ mark = [] := by decide
  have hoccurs : ∀ mark ∈ formatMarks, mark <:+: Percent.escape text ↔ mark <:+: text := by
    intro mark hmark
    obtain ⟨hne, hapart⟩ := hmarks mark hmark
    exact Percent.isInfix_escape_iff hne (List.inter_eq_nil_iff_disjoint.1 hapart) text
  exact forall₂_congr fun mark hmark => not_congr (hoccurs mark hmark)

theorem isUnmarked_of_not_mem {text : List Char} (hspace : ' ' ∉ text) (htag : '<' ∉ text) :
    IsUnmarked text := by
  have hmarks : ∀ mark ∈ formatMarks, ' ' ∈ mark ∨ '<' ∈ mark := by decide
  intro mark hmark hoccurs
  rcases hmarks mark hmark with hmem | hmem
  · exact hspace (hoccurs.subset hmem)
  · exact htag (hoccurs.subset hmem)

/-- A line is unmarked exactly if its keys and values are: no mark holds a delimiter. -/
theorem isUnmarked_rawLine_iff {pairs : List (String × String)} :
    IsUnmarked (Delimited.rawLine pairs) ↔
      ∀ pair ∈ pairs, IsUnmarked pair.1.toList ∧ IsUnmarked pair.2.toList := by
  have hmarks : ∀ mark ∈ formatMarks, mark ≠ [] ∧ '&' ∉ mark ∧ '=' ∉ mark := by decide
  -- So a mark in the line is in one of its pairs, and there in the key or in the value.
  have hpair : ∀ mark ∈ formatMarks, ∀ pair : String × String,
      mark <:+: Delimited.rawPair pair ↔ mark <:+: pair.1.toList ∨ mark <:+: pair.2.toList := by
    intro mark hmark pair
    exact isInfix_append_cons_iff (hmarks mark hmark).2.2
  have hline : ∀ mark ∈ formatMarks, mark <:+: Delimited.rawLine pairs ↔
      ∃ pair ∈ pairs, mark <:+: pair.1.toList ∨ mark <:+: pair.2.toList := by
    intro mark hmark
    obtain ⟨hne, hamp, -⟩ := hmarks mark hmark
    rw [Delimited.rawLine, isInfix_intercalate_iff hne hamp]
    constructor
    · rintro ⟨piece, hpiece, hoccurs⟩
      obtain ⟨pair, hmem, rfl⟩ := List.mem_map.1 hpiece
      exact ⟨pair, hmem, (hpair mark hmark pair).1 hoccurs⟩
    · rintro ⟨pair, hmem, hoccurs⟩
      exact ⟨_, List.mem_map_of_mem hmem, (hpair mark hmark pair).2 hoccurs⟩
  constructor
  · intro h pair hmem
    refine ⟨?_, ?_⟩
    · intro mark hmark hoccurs
      exact h mark hmark ((hline mark hmark).2 ⟨pair, hmem, Or.inl hoccurs⟩)
    · intro mark hmark hoccurs
      exact h mark hmark ((hline mark hmark).2 ⟨pair, hmem, Or.inr hoccurs⟩)
  · intro h mark hmark hoccurs
    obtain ⟨pair, hmem, hkey | hvalue⟩ := (hline mark hmark).1 hoccurs
    · exact (h pair hmem).1 mark hmark hkey
    · exact (h pair hmem).2 mark hmark hvalue

/-- Fields of an unmarked text are unmarked. -/
theorem IsUnmarked.written {text : List Char} {fields : List EnvelopeField} (h : IsUnmarked text)
    (htext : trim text = Delimited.rawLine (fields.map EnvelopeField.written))
    {field : EnvelopeField} (hfield : field ∈ fields) :
    IsUnmarked field.key.toList ∧ IsUnmarked field.raw.toList := by
  have htrim := h.of_isInfix (trim_isInfix text)
  rw [htext, isUnmarked_rawLine_iff] at htrim
  exact htrim field.written (List.mem_map_of_mem hfield)

theorem isUnmarked_iff_contains {text : List Char} :
    IsUnmarked text ↔ (contains "BEGIN ENVELOPE".toList text ||
      contains (MarkupEnvelope.openingTag MarkupEnvelope.outerName) text) = false := by
  rw [Bool.or_eq_false_iff, ← Bool.not_eq_true, ← Bool.not_eq_true, contains_iff_isInfix,
    contains_iff_isInfix]
  simp [IsUnmarked, formatMarks]

/-- A text is taken for a markup envelope exactly if it is marked. -/
theorem EnvelopeFormat.detect_eq_markup_iff {text : List Char} :
    detect text = .ok .markup ↔ ¬IsUnmarked text := by
  rw [isUnmarked_iff_contains, Bool.not_eq_false, detect]
  split
  · next h => exact iff_of_true rfl h
  · next h =>
    refine iff_of_false ?_ h
    split
    · exact nofun
    · exact nofun

/-- A text is taken for a delimited envelope if it is unmarked and holds a delimiter. -/
theorem EnvelopeFormat.detect_eq_delimited_iff {text : List Char} :
    detect text = .ok .delimited ↔ IsUnmarked text ∧ ('&' ∈ text ∨ '=' ∈ text) := by
  have hdelimiter : ('&' ∈ text ∨ '=' ∈ text) ↔
      (text.any fun c => c == '&' || c == '=') = true := by
    simp only [List.any_eq_true, Bool.or_eq_true, beq_iff_eq]
    constructor
    · rintro (h | h)
      · exact ⟨_, h, Or.inl rfl⟩
      · exact ⟨_, h, Or.inr rfl⟩
    · rintro ⟨c, hc, rfl | rfl⟩
      · exact Or.inl hc
      · exact Or.inr hc
  rw [isUnmarked_iff_contains, hdelimiter, detect]
  split
  · next h =>
    rw [h]
    simp
  · next h =>
    rw [Bool.not_eq_true] at h
    split
    · next hany => exact ⟨fun _ => ⟨h, hany⟩, fun _ => rfl⟩
    · next hany => simp [hany]

/-- A line is taken for what it is exactly if it is unmarked. -/
theorem EnvelopeFormat.detect_rawLine_eq_delimited_iff {pairs : List (String × String)}
    (hne : pairs ≠ []) :
    detect (Delimited.rawLine pairs) = .ok .delimited ↔ IsUnmarked (Delimited.rawLine pairs) := by
  rw [detect_eq_delimited_iff]
  exact and_iff_left (Or.inr (Delimited.equals_mem_rawLine hne))

/-- A text is read as a delimited envelope exactly if it is unmarked and, up to white space around
it, the line of the fields. -/
theorem ReceivedEnvelope.parse_eq_ok_delimited_iff {text : String} {fields : List EnvelopeField} :
    parse text = .ok ⟨.delimited, fields⟩ ↔
      IsUnmarked text.toList ∧ Delimited.IsLine fields ∧
        trim text.toList = Delimited.rawLine (fields.map EnvelopeField.written) := by
  constructor
  · intro h
    rw [parse] at h
    split at h
    · cases h
    next format hformat =>
    cases format with
    | markup =>
      simp only at h
      split at h
      · cases h
      · cases h
    | delimited =>
      simp only at h
      split at h
      · next found hfound =>
        cases h
        exact ⟨(EnvelopeFormat.detect_eq_delimited_iff.1 hformat).1,
          Delimited.parse_eq_ok_iff.1 hfound⟩
      · cases h
  · rintro ⟨hunmarked, hline, htext⟩
    have hequals : '=' ∈ text.toList := by
      apply (trim_isInfix text.toList).subset
      rw [htext]
      exact Delimited.equals_mem_rawLine (by simpa using hline.ne_nil)
    have hformat : EnvelopeFormat.detect text.toList = .ok .delimited :=
      EnvelopeFormat.detect_eq_delimited_iff.2 ⟨hunmarked, Or.inr hequals⟩
    have hfields : Delimited.parse text.toList = .ok fields :=
      Delimited.parse_eq_ok_iff.2 ⟨hline, htext⟩
    simp only [parse, hformat, hfields]

end GridAccess
