import GridAccess.Proofs.Envelope.Line
import GridAccess.Proofs.Text.Percent

/-!
# The grammar of lines

Which lines are delimited envelopes, said of their pieces between ampersands alone: every piece
holds an equals sign, the texts before the first of them are different and not empty, and the text
behind it denotes a value. What is wrong with a piece is told in this order: that it holds no equals
sign, that its value cannot be read, that its key is empty, that its key has been there before.

## Main definitions

- `Delimited.keyPart`, `Delimited.valuePart` — a piece before and behind its first equals sign
- `Delimited.IsGrammatical` — pieces that make a line
- `Delimited.ReadsAs` — the field that a piece is read as
- `Delimited.IsFault` — what is wrong with a piece after others
- `ReceivedEnvelope.Tells` — what an envelope tells of a key

## Main statements

- `Delimited.exists_foldlM_addPair_iff` — the pieces that are read are those that make a line
- `Delimited.addPair_eq_error_iff` — why a piece is refused
- `ReceivedEnvelope.tells` — an envelope tells of a key what its only field with the key holds
- `parse_line` — which lines are read, as what, and why the others are refused
-/

namespace GridAccess

open Text

namespace Delimited

/-- The text of a piece before its first equals sign. -/
def keyPart (piece : List Char) : List Char :=
  piece.takeWhile (· != '=')

/-- The text of a piece behind its first equals sign. -/
def valuePart (piece : List Char) : List Char :=
  (piece.dropWhile (· != '=')).drop 1

/-- The escapes in a text denote the bytes of a text. -/
def IsReadable (raw : List Char) : Prop :=
  ∃ value, Percent.Denotes raw (Utf8.encode value)

/-- Pieces with different keys and readable values. -/
structure IsGrammatical (pieces : List (List Char)) : Prop where
  equals_mem : ∀ piece ∈ pieces, '=' ∈ piece
  key_ne_nil : ∀ piece ∈ pieces, keyPart piece ≠ []
  readable : ∀ piece ∈ pieces, IsReadable (valuePart piece)
  nodup : (pieces.map keyPart).Nodup

/-- The field that a piece is read as. -/
structure ReadsAs (piece : List Char) (field : EnvelopeField) : Prop where
  equals_mem : '=' ∈ piece
  key : field.key.toList = keyPart piece
  raw : field.raw.toList = valuePart piece
  value : Percent.Denotes (valuePart piece) (Utf8.encode field.value)

/-- What is wrong with a piece after pieces with some keys. -/
inductive IsFault (earlier : List (List Char)) (piece : List Char) : EnvelopeError → Prop
  | malformedPair (hequals : '=' ∉ piece) :
      IsFault earlier piece (.malformedPair (String.ofList piece))
  | invalidEscape (hequals : '=' ∈ piece) (hvalue : ¬IsReadable (valuePart piece)) :
      IsFault earlier piece (.invalidEscape (String.ofList (valuePart piece)))
  | emptyKey (hequals : '=' ∈ piece) (hvalue : IsReadable (valuePart piece))
      (hkey : keyPart piece = []) : IsFault earlier piece .emptyKey
  | duplicateKey (hequals : '=' ∈ piece) (hvalue : IsReadable (valuePart piece))
      (hkey : keyPart piece ≠ []) (hearlier : keyPart piece ∈ earlier) :
      IsFault earlier piece (.duplicateKey (String.ofList (keyPart piece)))

variable {piece : List Char} {pieces : List (List Char)} {field : EnvelopeField}
  {fields : List EnvelopeField} {e : EnvelopeError}

/-! ## One piece -/

theorem parts_append {front : List Char} (h : '=' ∉ front) (back : List Char) :
    keyPart (front ++ '=' :: back) = front ∧ valuePart (front ++ '=' :: back) = back := by
  have hfront : ∀ c ∈ front, (c != '=') = true := by
    intro c hc
    exact bne_iff_ne.2 fun heq => h (heq ▸ hc)
  refine ⟨?_, ?_⟩
  · rw [keyPart, List.takeWhile_append_of_pos hfront]
    simp
  · rw [valuePart, List.dropWhile_append_of_pos hfront]
    simp

/-- A piece is cut into the parts before and behind its first equals sign. -/
theorem cut_equals (h : '=' ∈ piece) : cut ['='] piece = some (keyPart piece, valuePart piece) := by
  obtain ⟨front, back, rfl, hfront⟩ := List.eq_append_cons_of_mem h
  obtain ⟨hkey, hvalue⟩ := parts_append hfront back
  rw [hkey, hvalue]
  exact cut_singleton_eq_some_iff.2 ⟨rfl, hfront⟩

theorem cut_equals_eq_none (h : '=' ∉ piece) : cut ['='] piece = none := by
  rw [Option.eq_none_iff_forall_ne_some]
  rintro ⟨key, raw⟩ hcut
  obtain ⟨hpiece, -⟩ := cut_singleton_eq_some_iff.1 hcut
  exact h (by simp [hpiece])

theorem fieldOf_of_equals_mem (h : '=' ∈ piece) :
    fieldOf piece =
      match Percent.unescape? (String.ofList (valuePart piece)) with
      | some value => .ok ⟨String.ofList (keyPart piece), String.ofList (valuePart piece), value⟩
      | none => .error (.invalidEscape (String.ofList (valuePart piece))) := by
  cases hvalue : Percent.unescape? (String.ofList (valuePart piece)) with
  | none => simp only [fieldOf, cut_equals h, hvalue]
  | some value => simp only [fieldOf, cut_equals h, hvalue]

theorem fieldOf_eq_ok_iff_readsAs : fieldOf piece = .ok field ↔ ReadsAs piece field := by
  constructor
  · intro h
    by_cases hequals : '=' ∈ piece
    · rw [fieldOf_of_equals_mem hequals] at h
      split at h
      · next value hvalue =>
        cases h
        refine ⟨hequals, String.toList_ofList, String.toList_ofList, ?_⟩
        rwa [Percent.unescape?_eq_some_iff, String.toList_ofList] at hvalue
      · cases h
    · rw [fieldOf, cut_equals_eq_none hequals] at h
      cases h
  · rintro ⟨hequals, hkey, hraw, hvalue⟩
    rw [fieldOf_of_equals_mem hequals, ← hkey, ← hraw, String.ofList_toList, String.ofList_toList,
      Percent.unescape?_eq_some_iff.2 (hraw ▸ hvalue)]

theorem isReadable_iff {raw : List Char} :
    IsReadable raw ↔ Percent.unescape? (String.ofList raw) ≠ none := by
  rw [Option.ne_none_iff_exists', IsReadable]
  simp only [Percent.unescape?_eq_some_iff, String.toList_ofList]

theorem ReadsAs.isReadable (h : ReadsAs piece field) : IsReadable (valuePart piece) :=
  ⟨field.value, h.value⟩

theorem exists_readsAs (hequals : '=' ∈ piece) (hvalue : IsReadable (valuePart piece)) :
    ∃ field, ReadsAs piece field := by
  obtain ⟨value, hvalue⟩ := hvalue
  exact ⟨⟨String.ofList (keyPart piece), String.ofList (valuePart piece), value⟩, hequals,
    String.toList_ofList, String.toList_ofList, hvalue⟩

theorem fieldOf_eq_error_iff :
    fieldOf piece = .error e ↔
      '=' ∉ piece ∧ e = .malformedPair (String.ofList piece) ∨
        '=' ∈ piece ∧ ¬IsReadable (valuePart piece) ∧
          e = .invalidEscape (String.ofList (valuePart piece)) := by
  by_cases hequals : '=' ∈ piece
  · rw [fieldOf_of_equals_mem hequals, isReadable_iff]
    cases hvalue : Percent.unescape? (String.ofList (valuePart piece)) with
    | none => simp [hequals, eq_comm]
    | some value => simp [hequals]
  · rw [fieldOf, cut_equals_eq_none hequals]
    simp [hequals, eq_comm]

/-- A piece is refused for what is wrong with it after the fields that are there. -/
theorem addPair_eq_error_iff :
    addPair fields piece = .error e ↔
      IsFault (fields.map fun field => field.key.toList) piece e := by
  have hsteps : addPair fields piece = fieldOf piece >>= addField fields := by
    rw [addPair]
    cases fieldOf piece with
    | error f => rfl
    | ok field => rfl
  rw [hsteps, bind_eq_error_iff, fieldOf_eq_error_iff]
  constructor
  · rintro ((⟨hequals, rfl⟩ | ⟨hequals, hvalue, rfl⟩) | ⟨field, hfield, hadd⟩)
    · exact .malformedPair hequals
    · exact .invalidEscape hequals hvalue
    · have hreads := fieldOf_eq_ok_iff_readsAs.1 hfield
      have hkeytext : field.key = String.ofList (keyPart piece) := by
        rw [← hreads.key, String.ofList_toList]
      rcases addField_eq_error_iff.1 hadd with ⟨hkey, rfl⟩ | ⟨hkey, hmem, rfl⟩
      · refine .emptyKey hreads.equals_mem hreads.isReadable ?_
        rw [← hreads.key, hkey]
        rfl
      · rw [hkeytext]
        refine .duplicateKey hreads.equals_mem hreads.isReadable ?_ ?_
        · rw [← hreads.key]
          exact mt String.toList_eq_nil_iff.1 hkey
        · obtain ⟨other, hother, hsame⟩ := List.mem_map.1 hmem
          refine List.mem_map.2 ⟨other, hother, ?_⟩
          rw [hsame, hreads.key]
  · intro hfault
    cases hfault with
    | malformedPair hequals => exact Or.inl (Or.inl ⟨hequals, rfl⟩)
    | invalidEscape hequals hvalue => exact Or.inl (Or.inr ⟨hequals, hvalue, rfl⟩)
    | emptyKey hequals hvalue hkey =>
      obtain ⟨field, hreads⟩ := exists_readsAs hequals hvalue
      refine Or.inr ⟨field, fieldOf_eq_ok_iff_readsAs.2 hreads, addField_eq_error_iff.2 ?_⟩
      refine Or.inl ⟨String.toList_eq_nil_iff.1 ?_, rfl⟩
      rw [hreads.key, hkey]
    | duplicateKey hequals hvalue hkey hearlier =>
      obtain ⟨field, hreads⟩ := exists_readsAs hequals hvalue
      refine Or.inr ⟨field, fieldOf_eq_ok_iff_readsAs.2 hreads, addField_eq_error_iff.2 ?_⟩
      rw [← hreads.key] at hkey hearlier ⊢
      obtain ⟨other, hother, hsame⟩ := List.mem_map.1 hearlier
      refine Or.inr ⟨mt String.toList_eq_nil_iff.2 hkey, ?_, by rw [String.ofList_toList]⟩
      exact List.mem_map.2 ⟨other, hother, String.toList_injective hsame⟩

/-! ## Pieces one after the other -/

/-- The keys of the fields are those of the pieces that are read as them. -/
theorem map_key_of_readsAs (h : List.Forall₂ ReadsAs pieces fields) :
    fields.map (fun field => field.key.toList) = pieces.map keyPart := by
  induction h with
  | nil => rfl
  | cons hreads _ ih => rw [List.map_cons, List.map_cons, hreads.key, ih]

/-- Fields are read from their pairs as they are written, and from nothing else. -/
theorem forall₂_readsAs_iff :
    List.Forall₂ ReadsAs pieces fields ↔
      pieces = fields.map (fun field => rawPair field.written) ∧
        ∀ field ∈ fields, ReadsAs (rawPair field.written) field := by
  constructor
  · intro h
    induction h with
    | nil => simp
    | cons hreads _ ih =>
      obtain ⟨hpieces, hfields⟩ := ih
      have hpiece := (fieldOf_eq_ok_iff.1 (fieldOf_eq_ok_iff_readsAs.2 hreads)).1
      refine ⟨by rw [List.map_cons, ← hpiece, ← hpieces], ?_⟩
      exact List.forall_mem_cons.2 ⟨hpiece ▸ hreads, hfields⟩
  · rintro ⟨rfl, hfields⟩
    exact List.forall₂_map_left_iff.2 (List.forall₂_same.2 hfields)

/-- Of pieces that are read as fields, only the keys are left to be checked. -/
theorem isGrammatical_iff_of_readsAs (h : List.Forall₂ ReadsAs pieces fields) :
    IsGrammatical pieces ↔
      (∀ field ∈ fields, field.key ≠ "") ∧ (fields.map EnvelopeField.key).Nodup := by
  have hkeys := map_key_of_readsAs h
  have hempty : (∀ piece ∈ pieces, keyPart piece ≠ []) ↔ ∀ field ∈ fields, field.key ≠ "" := by
    have hpieces : (∀ piece ∈ pieces, keyPart piece ≠ []) ↔ [] ∉ pieces.map keyPart := by
      simp only [List.mem_map, not_exists, not_and, ne_eq]
    rw [hpieces, ← hkeys]
    simp only [List.mem_map, not_exists, not_and, ne_eq, String.toList_eq_nil_iff]
  have hnodup : (pieces.map keyPart).Nodup ↔ (fields.map EnvelopeField.key).Nodup := by
    have hmap : fields.map (fun field => field.key.toList) =
        (fields.map EnvelopeField.key).map String.toList := by
      rw [List.map_map]
      rfl
    rw [← hkeys, hmap]
    exact List.nodup_map_iff fun _ _ => String.toList_injective
  obtain ⟨hpieces, hfields⟩ := forall₂_readsAs_iff.1 h
  constructor
  · intro hgrammar
    exact ⟨hempty.1 hgrammar.key_ne_nil, hnodup.1 hgrammar.nodup⟩
  · rintro ⟨hne, hdistinct⟩
    have hall : ∀ piece ∈ pieces, ∃ field, ReadsAs piece field := by
      intro piece hpiece
      rw [hpieces] at hpiece
      obtain ⟨field, hfield, rfl⟩ := List.mem_map.1 hpiece
      exact ⟨field, hfields field hfield⟩
    refine ⟨?_, hempty.2 hne, ?_, hnodup.2 hdistinct⟩
    · intro piece hpiece
      obtain ⟨field, hreads⟩ := hall piece hpiece
      exact hreads.equals_mem
    · intro piece hpiece
      obtain ⟨field, hreads⟩ := hall piece hpiece
      exact hreads.isReadable

/-- Pieces are read as fields exactly if they make a line and each is read as its field. -/
theorem foldlM_addPair_eq_ok_iff_readsAs :
    pieces.foldlM addPair [] = .ok fields ↔
      IsGrammatical pieces ∧ List.Forall₂ ReadsAs pieces fields := by
  have hreads : ∀ field : EnvelopeField, ReadsAs (rawPair field.written) field ↔
      '=' ∉ field.key.toList ∧ Percent.unescape? field.raw = some field.value := by
    intro field
    rw [← fieldOf_eq_ok_iff_readsAs, fieldOf_eq_ok_iff]
    exact and_iff_right rfl
  rw [foldlM_addPair_eq_ok_iff (by simp)]
  constructor
  · rintro ⟨_, rfl, hpieces, hmore, hnodup⟩
    have hall := forall₂_readsAs_iff.2
      ⟨hpieces, fun field hfield => (hreads field).2 (hmore field hfield).2⟩
    refine ⟨(isGrammatical_iff_of_readsAs hall).2 ⟨?_, hnodup⟩, hall⟩
    intro field hfield
    exact (hmore field hfield).1
  · rintro ⟨hgrammar, hall⟩
    obtain ⟨hne, hnodup⟩ := (isGrammatical_iff_of_readsAs hall).1 hgrammar
    obtain ⟨hpieces, hfields⟩ := forall₂_readsAs_iff.1 hall
    refine ⟨fields, rfl, hpieces, ?_, hnodup⟩
    intro field hfield
    exact ⟨hne field hfield, (hreads field).1 (hfields field hfield)⟩

theorem IsGrammatical.exists_readsAs (h : IsGrammatical pieces) :
    ∃ fields, List.Forall₂ ReadsAs pieces fields := by
  have hall : ∀ piece ∈ pieces, ∃ field, ReadsAs piece field := by
    intro piece hpiece
    exact Delimited.exists_readsAs (h.equals_mem piece hpiece) (h.readable piece hpiece)
  clear h
  induction pieces with
  | nil => exact ⟨[], .nil⟩
  | cons piece pieces ih =>
    obtain ⟨field, hfield⟩ := hall piece List.mem_cons_self
    obtain ⟨fields, hfields⟩ := ih fun other hother => hall other (List.mem_cons_of_mem _ hother)
    exact ⟨field :: fields, .cons hfield hfields⟩

/-- The pieces that are read are those that make a line. -/
theorem exists_foldlM_addPair_iff :
    (∃ fields, pieces.foldlM addPair [] = .ok fields) ↔ IsGrammatical pieces := by
  simp only [foldlM_addPair_eq_ok_iff_readsAs]
  constructor
  · rintro ⟨fields, hgrammar, -⟩
    exact hgrammar
  · intro hgrammar
    obtain ⟨fields, hfields⟩ := hgrammar.exists_readsAs
    exact ⟨fields, hgrammar, hfields⟩

/-- The first piece with which something is wrong is what pieces are refused for. -/
theorem foldlM_addPair_eq_error_iff :
    pieces.foldlM addPair [] = .error e ↔
      ∃ before piece after, pieces = before ++ piece :: after ∧ IsGrammatical before ∧
        IsFault (before.map keyPart) piece e := by
  rw [foldlM_eq_error_iff]
  constructor
  · rintro ⟨before, piece, after, fields, rfl, hbefore, hpiece⟩
    obtain ⟨hgrammar, hfields⟩ := foldlM_addPair_eq_ok_iff_readsAs.1 hbefore
    rw [addPair_eq_error_iff, map_key_of_readsAs hfields] at hpiece
    exact ⟨before, piece, after, rfl, hgrammar, hpiece⟩
  · rintro ⟨before, piece, after, rfl, hgrammar, hfault⟩
    obtain ⟨fields, hfields⟩ := hgrammar.exists_readsAs
    refine ⟨before, piece, after, fields, rfl,
      foldlM_addPair_eq_ok_iff_readsAs.2 ⟨hgrammar, hfields⟩, ?_⟩
    rwa [addPair_eq_error_iff, map_key_of_readsAs hfields]

end Delimited

/-! ## Envelopes -/

/-- What an envelope tells of a key: the value and the written value of its only field with the key,
or nothing if it has none. -/
inductive ReceivedEnvelope.Tells (received : ReceivedEnvelope) (key : String) : Prop
  | present (field : EnvelopeField)
      (honly : ∀ other, other ∈ received.fields ∧ other.key = key ↔ other = field)
      (hget : received.get? key = some field.value) (hraw : received.raw? key = some field.raw)
      (hcontains : received.contains key = true)
  | absent (hnone : ∀ field ∈ received.fields, field.key ≠ key)
      (hget : received.get? key = none) (hraw : received.raw? key = none)
      (hcontains : received.contains key = false)

/-- An envelope whose fields have different keys tells of a key what its only field with the key
holds. -/
theorem ReceivedEnvelope.tells {received : ReceivedEnvelope}
    (hnodup : (received.fields.map EnvelopeField.key).Nodup) (key : String) :
    received.Tells key := by
  cases hfind : findField? key received.fields with
  | some field =>
    obtain ⟨hmem, hkey⟩ := (findField?_eq_some_iff hnodup).1 hfind
    refine .present field ?_ (by rw [get?, hfind]; rfl) (by rw [raw?, hfind]; rfl) ?_
    · intro other
      rw [← findField?_eq_some_iff hnodup, hfind, Option.some.injEq]
      exact eq_comm
    · exact List.any_eq_true.2 ⟨field, hmem, beq_iff_eq.2 hkey⟩
  | none =>
    have hnone := findField?_eq_none_iff.1 hfind
    refine .absent hnone (by rw [get?, hfind]; rfl) (by rw [raw?, hfind]; rfl) ?_
    rw [contains, List.any_eq_false]
    intro field hfield
    simpa using hnone field hfield

/-- The pieces of a text between ampersands, white space around it ignored. -/
def linePieces (text : String) : List (List Char) :=
  (trim text.toList).splitOn '&'

section Parse

variable {text : String} {received : ReceivedEnvelope} {e : EnvelopeError}
  (hformat : EnvelopeFormat.detect text.toList = .ok .delimited)
include hformat

theorem ReceivedEnvelope.parse_eq_ok_iff_of_delimited :
    parse text = .ok received ↔
      ∃ fields, (linePieces text).foldlM Delimited.addPair [] = .ok fields ∧
        received = ⟨.delimited, fields⟩ := by
  simp only [parse, hformat, Delimited.parse, linePieces]
  cases ((trim text.toList).splitOn '&').foldlM Delimited.addPair [] with
  | error f => simp
  | ok fields => simp [eq_comm]

theorem ReceivedEnvelope.parse_eq_error_iff_of_delimited :
    parse text = .error e ↔ (linePieces text).foldlM Delimited.addPair [] = .error e := by
  simp only [parse, hformat, Delimited.parse, linePieces]
  cases ((trim text.toList).splitOn '&').foldlM Delimited.addPair [] with
  | error f => simp
  | ok fields => simp

end Parse

/-- A text that is taken for a line is an envelope exactly if its pieces make a line. Then each of
them is read as one field, the text is what was written of the fields up to white space around it,
and the envelope tells of every key what its only field with the key holds. Otherwise the text is
refused for the first piece with which something is wrong. -/
theorem parse_line (text : String)
    (hformat : EnvelopeFormat.detect text.toList = .ok .delimited) :
    ((∃ received, ReceivedEnvelope.parse text = .ok received) ↔
        Delimited.IsGrammatical (linePieces text)) ∧
      (∀ received, ReceivedEnvelope.parse text = .ok received →
        received.format = .delimited ∧
          List.Forall₂ Delimited.ReadsAs (linePieces text) received.fields ∧
          Delimited.rawLine (received.fields.map EnvelopeField.written) = trim text.toList ∧
          ∀ key, received.Tells key) ∧
      ∀ e, ReceivedEnvelope.parse text = .error e ↔
        ∃ before piece after, linePieces text = before ++ piece :: after ∧
          Delimited.IsGrammatical before ∧
          Delimited.IsFault (before.map Delimited.keyPart) piece e := by
  refine ⟨?_, ?_, ?_⟩
  · rw [← Delimited.exists_foldlM_addPair_iff]
    constructor
    · rintro ⟨received, hparse⟩
      obtain ⟨fields, hfields, -⟩ :=
        (ReceivedEnvelope.parse_eq_ok_iff_of_delimited hformat).1 hparse
      exact ⟨fields, hfields⟩
    · rintro ⟨fields, hfields⟩
      exact ⟨_, (ReceivedEnvelope.parse_eq_ok_iff_of_delimited hformat).2 ⟨fields, hfields, rfl⟩⟩
  · intro received hparse
    obtain ⟨fields, hfields, rfl⟩ :=
      (ReceivedEnvelope.parse_eq_ok_iff_of_delimited hformat).1 hparse
    obtain ⟨hgrammar, hreads⟩ := Delimited.foldlM_addPair_eq_ok_iff_readsAs.1 hfields
    obtain ⟨hpieces, -⟩ := Delimited.forall₂_readsAs_iff.1 hreads
    have hnodup := ((Delimited.isGrammatical_iff_of_readsAs hreads).1 hgrammar).2
    have hjoin : ['&'].intercalate (linePieces text) = trim text.toList :=
      List.intercalate_splitOn '&'
    refine ⟨rfl, hreads, ?_, ReceivedEnvelope.tells hnodup⟩
    rw [Delimited.rawLine, List.map_map, ← hjoin, hpieces]
    rfl
  · intro e
    rw [ReceivedEnvelope.parse_eq_error_iff_of_delimited hformat]
    exact Delimited.foldlM_addPair_eq_error_iff

/-- A value that cannot be read is told before the empty key of its piece, and the key that has been
there before is not reached. Without these pieces the line is read, escapes that are none as they
stand. -/
theorem parse_line_sample :
    EnvelopeFormat.detect " a=1=2&b=%C3%A9%zz&=%FF&a=x ".toList = .ok .delimited ∧
      ReceivedEnvelope.parse " a=1=2&b=%C3%A9%zz&=%FF&a=x " = .error (.invalidEscape "%FF") ∧
      EnvelopeFormat.detect " a=1=2&b=%C3%A9%zz ".toList = .ok .delimited ∧
      ∃ received, ReceivedEnvelope.parse " a=1=2&b=%C3%A9%zz " = .ok received ∧
        Delimited.rawLine (received.fields.map EnvelopeField.written) =
          "a=1=2&b=%C3%A9%zz".toList := by
  have hrefused : EnvelopeFormat.detect " a=1=2&b=%C3%A9%zz&=%FF&a=x ".toList = .ok .delimited := by
    decide +kernel
  have haccepted : EnvelopeFormat.detect " a=1=2&b=%C3%A9%zz ".toList = .ok .delimited := by
    decide +kernel
  have hfront : Delimited.IsGrammatical ["a=1=2".toList, "b=%C3%A9%zz".toList] := by
    refine ⟨by decide, by decide, ?_, by decide⟩
    simp only [Delimited.isReadable_iff]
    decide +kernel
  have hfault : Delimited.IsFault (["a=1=2".toList, "b=%C3%A9%zz".toList].map Delimited.keyPart)
      "=%FF".toList (.invalidEscape "%FF") := by
    refine .invalidEscape (by decide) ?_
    rw [Delimited.isReadable_iff]
    decide +kernel
  obtain ⟨-, -, herror⟩ := parse_line _ hrefused
  obtain ⟨hread, hreceived, -⟩ := parse_line _ haccepted
  obtain ⟨received, hparse⟩ := hread.2 hfront
  obtain ⟨-, -, hwritten, -⟩ := hreceived received hparse
  exact ⟨hrefused, (herror _).2 ⟨_, _, ["a=x".toList], by decide +kernel, hfront, hfault⟩,
    haccepted, received, hparse, hwritten⟩

end GridAccess
