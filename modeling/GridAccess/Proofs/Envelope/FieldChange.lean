import GridAccess.Proofs.Envelope.Line

/-!
# Changing one field of a line

A field with a usable key can be put into a line, in place of the one with its key if there is one.
With its value escaped byte by byte, the line is still read as a delimited envelope.

## Main definitions

- `withField` — fields with one more, or with one in place of that with its key
- `IsFieldKey` — the keys that fields of delimited envelopes can have
- `lineText` — the text of fields

## Main statements

- `findField?_withField_self`, `findField?_withField_of_ne` — only the one field changes
- `parse_lineText_withField` — the line with the field is read as such
-/

namespace GridAccess

open Text

/-! ## Setting a field -/

/-- Fields with one in place of that with its key, or at the end if there is none. -/
def withField (field : EnvelopeField) : List EnvelopeField → List EnvelopeField
  | [] => [field]
  | other :: rest =>
    if other.key = field.key then field :: rest else other :: withField field rest

variable {field : EnvelopeField} {fields : List EnvelopeField}

theorem withField_ne_nil (field : EnvelopeField) (fields : List EnvelopeField) :
    withField field fields ≠ [] := by
  cases fields with
  | nil => exact List.cons_ne_nil _ _
  | cons first rest =>
    by_cases hsame : first.key = field.key
    · rw [withField, if_pos hsame]
      exact List.cons_ne_nil _ _
    · rw [withField, if_neg hsame]
      exact List.cons_ne_nil _ _

theorem mem_withField {other : EnvelopeField} (h : other ∈ withField field fields) :
    other = field ∨ other ∈ fields := by
  induction fields with
  | nil => exact Or.inl (List.mem_singleton.1 h)
  | cons first rest ih =>
    by_cases hsame : first.key = field.key
    · rw [withField, if_pos hsame] at h
      rcases List.mem_cons.1 h with h | h
      · exact Or.inl h
      · exact Or.inr (List.mem_cons_of_mem _ h)
    · rw [withField, if_neg hsame] at h
      rcases List.mem_cons.1 h with h | h
      · exact Or.inr (h ▸ List.mem_cons_self)
      · rcases ih h with h | h
        · exact Or.inl h
        · exact Or.inr (List.mem_cons_of_mem _ h)

theorem findField?_withField_self (field : EnvelopeField) (fields : List EnvelopeField) :
    findField? field.key (withField field fields) = some field := by
  induction fields with
  | nil => simp [withField, findField?]
  | cons first rest ih =>
    by_cases hsame : first.key = field.key
    · rw [withField, if_pos hsame]
      simp [findField?]
    · have hfirst : (first.key == field.key) = false := beq_eq_false_iff_ne.2 hsame
      rw [withField, if_neg hsame, findField?, List.find?_cons, hfirst]
      exact ih

theorem findField?_withField_of_ne {key : String} (h : key ≠ field.key)
    (fields : List EnvelopeField) :
    findField? key (withField field fields) = findField? key fields := by
  have hfield : (field.key == key) = false := beq_eq_false_iff_ne.2 h.symm
  induction fields with
  | nil => simp [withField, findField?, h.symm]
  | cons first rest ih =>
    by_cases hsame : first.key = field.key
    · rw [withField, if_pos hsame, findField?, findField?, List.find?_cons, List.find?_cons, hsame,
        hfield]
    · rw [withField, if_neg hsame, findField?, findField?, List.find?_cons, List.find?_cons,
        ← findField?, ih, findField?]

/-- The keys stay, with the new one at the end if it was not there. -/
theorem keys_withField (field : EnvelopeField) (fields : List EnvelopeField) :
    (withField field fields).map EnvelopeField.key =
      if field.key ∈ fields.map EnvelopeField.key then fields.map EnvelopeField.key
      else fields.map EnvelopeField.key ++ [field.key] := by
  induction fields with
  | nil => rfl
  | cons first rest ih =>
    by_cases hsame : first.key = field.key
    · rw [withField, if_pos hsame]
      simp [hsame]
    · have hkey : ¬field.key = first.key := fun heq => hsame heq.symm
      rw [withField, if_neg hsame]
      simp only [List.map_cons, ih, List.mem_cons, hkey, false_or]
      by_cases hmem : field.key ∈ rest.map EnvelopeField.key
      · rw [if_pos hmem, if_pos hmem]
      · rw [if_neg hmem, if_neg hmem, List.cons_append]

theorem isLine_withField (h : Delimited.IsLine fields) (hpair : Delimited.IsPair field.written)
    (hvalue : Percent.unescape? field.raw = some field.value) :
    Delimited.IsLine (withField field fields) where
  ne_nil := withField_ne_nil field fields
  isPair := by
    intro other hother
    rcases mem_withField hother with rfl | hother
    · exact hpair
    · exact h.isPair other hother
  unescape := by
    intro other hother
    rcases mem_withField hother with rfl | hother
    · exact hvalue
    · exact h.unescape other hother
  nodup := by
    rw [keys_withField]
    by_cases hmem : field.key ∈ fields.map EnvelopeField.key
    · rw [if_pos hmem]
      exact h.nodup
    · rw [if_neg hmem, ← List.concat_eq_append]
      exact h.nodup.concat hmem

/-- The first key stays, since a field that is there is replaced in its place. -/
theorem head?_withField (hne : fields ≠ []) {first : EnvelopeField}
    (h : (withField field fields).head? = some first) :
    ∃ other ∈ fields.head?, other.key = first.key := by
  cases fields with
  | nil => exact absurd rfl hne
  | cons other rest =>
    by_cases hsame : other.key = field.key
    · rw [withField, if_pos hsame] at h
      cases h
      exact ⟨other, rfl, hsame⟩
    · rw [withField, if_neg hsame] at h
      cases h
      exact ⟨first, rfl, rfl⟩

theorem getLast?_withField {last : EnvelopeField}
    (h : (withField field fields).getLast? = some last) :
    last = field ∨ fields.getLast? = some last := by
  induction fields with
  | nil =>
    cases h
    exact Or.inl rfl
  | cons first rest ih =>
    by_cases hsame : first.key = field.key
    · rw [withField, if_pos hsame, List.getLast?_cons] at h
      rw [List.getLast?_cons]
      cases hrest : rest.getLast? with
      | none =>
        rw [hrest] at h
        cases h
        exact Or.inl rfl
      | some other =>
        rw [hrest] at h
        exact Or.inr h
    · rw [withField, if_neg hsame, List.getLast?_cons] at h
      cases hrest : (withField field rest).getLast? with
      | none => exact absurd (List.getLast?_eq_none_iff.1 hrest) (withField_ne_nil field rest)
      | some other =>
        rw [hrest] at h
        cases h
        rcases ih hrest with hlast | hlast
        · exact Or.inl hlast
        · right
          rw [List.getLast?_cons, hlast]
          rfl

/-! ## Fields with any value -/

/-- A key that a field of a delimited envelope can have. -/
structure IsFieldKey (key : String) : Prop where
  ne_empty : key ≠ ""
  equals_not_mem : '=' ∉ key.toList
  amp_not_mem : '&' ∉ key.toList
  isUnmarked : IsUnmarked key.toList

/-- A field whose value is written with all of its bytes escaped. -/
def EnvelopeField.escaped (key value : String) : EnvelopeField :=
  ⟨key, String.ofList (Percent.escapeAll value), value⟩

/-- Escaped bytes hold no ampersand, no tag and no white space. -/
theorem plain_of_mem_escapeAll {text : String} {c : Char} (h : c ∈ Percent.escapeAll text) :
    c ≠ '&' ∧ c ≠ '<' ∧ isBlank c = false := by
  have hall : ∀ k : Fin 16, Hex.digit k.val ≠ '&' ∧ Hex.digit k.val ≠ '<' ∧
      isBlank (Hex.digit k.val) = false := by
    decide
  rcases Percent.mem_escapeAll h with rfl | ⟨n, hn, rfl⟩
  · decide
  · exact hall ⟨n, hn⟩

theorem isUnmarked_escapeAll (text : String) : IsUnmarked (Percent.escapeAll text) := by
  apply isUnmarked_of_not_mem
  · intro hspace
    cases (plain_of_mem_escapeAll hspace).2.2
  · intro htag
    exact (plain_of_mem_escapeAll htag).2.1 rfl

theorem IsFieldKey.isPair {key : String} (h : IsFieldKey key) (value : String) :
    Delimited.IsPair (EnvelopeField.escaped key value).written := by
  refine ⟨h.ne_empty, h.equals_not_mem, h.amp_not_mem, ?_⟩
  intro hamp
  have hmem : '&' ∈ Percent.escapeAll value := by
    simpa [EnvelopeField.escaped, EnvelopeField.written] using hamp
  exact (plain_of_mem_escapeAll hmem).1 rfl

/-- The keys in an unmarked line can be keys of fields. -/
theorem Delimited.IsLine.isFieldKey {text : List Char} (h : IsLine fields)
    (hunmarked : IsUnmarked text) (htext : trim text = rawLine (fields.map EnvelopeField.written))
    {other : EnvelopeField} (hother : other ∈ fields) : IsFieldKey other.key := by
  have hpair := h.isPair other hother
  exact ⟨hpair.key_ne_empty, hpair.equals_not_mem, hpair.amp_not_mem_key,
    (hunmarked.written htext hother).1⟩

/-! ## Reading the changed line -/

/-- The text of fields. -/
def lineText (fields : List EnvelopeField) : String :=
  String.ofList (Delimited.rawLine (fields.map EnvelopeField.written))

variable {text : List Char} {key : String}

theorem isUnmarked_lineText_withField (hunmarked : IsUnmarked text)
    (htext : trim text = Delimited.rawLine (fields.map EnvelopeField.written))
    (hkey : IsFieldKey key) (value : String) :
    IsUnmarked (lineText (withField (.escaped key value) fields)).toList := by
  rw [lineText, String.toList_ofList, isUnmarked_rawLine_iff]
  intro pair hpair
  obtain ⟨other, hother, rfl⟩ := List.mem_map.1 hpair
  rcases mem_withField hother with rfl | hother
  · refine ⟨hkey.isUnmarked, ?_⟩
    simpa [EnvelopeField.escaped, EnvelopeField.written] using isUnmarked_escapeAll value
  · exact hunmarked.written htext hother

/-- The changed line has no white space at its ends if the line had none: it starts with the same
key as before, and ends with the same value or with an escaped byte. -/
theorem isTrimmed_rawLine_withField (hline : Delimited.IsLine fields)
    (htrim : IsTrimmed (Delimited.rawLine (fields.map EnvelopeField.written)))
    (hkey : IsFieldKey key) (value : String) :
    IsTrimmed (Delimited.rawLine
      ((withField (.escaped key value) fields).map EnvelopeField.written)) := by
  have hkeys : ∀ {fields : List EnvelopeField}, (∀ field ∈ fields, field.key ≠ "") →
      ∀ pair ∈ fields.map EnvelopeField.written, pair.1 ≠ "" := by
    intro fields hfields pair hpair
    obtain ⟨other, hother, rfl⟩ := List.mem_map.1 hpair
    exact hfields other hother
  have hbefore : ∀ other ∈ fields, other.key ≠ "" := by
    intro other hother
    exact (hline.isPair other hother).key_ne_empty
  have hafter : ∀ other ∈ withField (.escaped key value) fields, other.key ≠ "" := by
    intro other hother
    rcases mem_withField hother with rfl | hother
    · exact hkey.ne_empty
    · exact hbefore other hother
  obtain ⟨hstart, hend⟩ := (Delimited.isTrimmed_rawLine_iff (by simpa using hline.ne_nil)
    (hkeys hbefore)).1 htrim
  refine (Delimited.isTrimmed_rawLine_iff (by simpa using withField_ne_nil _ fields)
    (hkeys hafter)).2 ⟨?_, ?_⟩
  · intro pair hpair
    rw [List.head?_map, Option.mem_def, Option.map_eq_some_iff] at hpair
    obtain ⟨first, hfirst, rfl⟩ := hpair
    obtain ⟨other, hother, hsame⟩ := head?_withField hline.ne_nil hfirst
    have hplain := hstart other.written (by rw [List.head?_map, hother]; rfl)
    intro c hc
    apply hplain c
    show c ∈ other.key.toList.head?
    rw [hsame]
    exact hc
  · intro pair hpair
    rw [List.getLast?_map, Option.mem_def, Option.map_eq_some_iff] at hpair
    obtain ⟨last, hlast, rfl⟩ := hpair
    rcases getLast?_withField hlast with rfl | hlast
    · intro c hc
      have hmem : c ∈ Percent.escapeAll value := by
        apply List.mem_of_mem_getLast?
        simpa [EnvelopeField.escaped, EnvelopeField.written] using hc
      exact (plain_of_mem_escapeAll hmem).2.2
    · exact hend last.written (by rw [List.getLast?_map, hlast]; rfl)

/-- An envelope stays readable if a field is given a value. -/
theorem parse_lineText_withField (hunmarked : IsUnmarked text) (hline : Delimited.IsLine fields)
    (htext : trim text = Delimited.rawLine (fields.map EnvelopeField.written))
    (hkey : IsFieldKey key) (value : String) :
    ReceivedEnvelope.parse (lineText (withField (.escaped key value) fields)) =
      .ok ⟨.delimited, withField (.escaped key value) fields⟩ := by
  have htrim : IsTrimmed (Delimited.rawLine (fields.map EnvelopeField.written)) :=
    htext ▸ isTrimmed_trim text
  refine ReceivedEnvelope.parse_eq_ok_delimited_iff.2 ⟨?_, ?_, ?_⟩
  · exact isUnmarked_lineText_withField hunmarked htext hkey value
  · exact isLine_withField hline (hkey.isPair value) (Percent.unescape?_escapeAll value)
  · rw [lineText, String.toList_ofList,
      trim_eq_self (isTrimmed_rawLine_withField hline htrim hkey value)]

end GridAccess
