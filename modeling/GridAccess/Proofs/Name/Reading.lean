import GridAccess.Exchange.Name
import GridAccess.Proofs.Text.Occurrence
import Mathlib.Data.List.Induction

/-!
# Reading paths

The segments of a path are the pieces between the slashes of its text. Texts are trimmed before they
are read, and since a slash is no white space, only the last piece loses anything. So a name with
white space at its end is not read as it is: a path that ends with such a name is not found again in
its own text.

## Main statements

- `LogicalPath.pieces_chars` — the segments of a path are found in its text
- `LogicalPath.not_isInfix_chars` — paths hold no double slash
- `LogicalPath.ofChars_eq_ok_iff` — which path a text denotes
- `LogicalPath.join_eq_ok_iff` — the path that a name denotes below another path
- `LogicalPath.parse_text_eq_ok_iff` — the path that the text of a path denotes
- `path_read_back_iff` — which paths are found again in their texts
-/

namespace GridAccess

open Text

namespace LogicalPath

variable {path parent result : LogicalPath} {text name : List Char} {front : List (List Char)}

/-! ## Texts and their pieces -/

/-- Segments have a slash before each of them, if there is one. -/
theorem cons_intercalate_eq_flatMap {segments : List (List Char)} (h : segments ≠ []) :
    '/' :: ['/'].intercalate segments = segments.flatMap ('/' :: ·) := by
  induction segments with
  | nil => exact absurd rfl h
  | cons segment segments ih =>
    cases segments with
    | nil => simp
    | cons other segments =>
      rw [List.intercalate_cons_cons, List.flatMap_cons, ← ih (by simp)]
      simp

theorem chars_eq_flatMap (h : path.segments ≠ []) :
    path.chars = path.segments.flatMap ('/' :: ·) :=
  cons_intercalate_eq_flatMap h

/-- The text of a path ends with its last segment. -/
theorem chars_eq_append (h : path.segments = front ++ [name]) :
    path.chars = front.flatMap ('/' :: ·) ++ '/' :: name := by
  have hne : path.segments ≠ [] := by simp [h]
  rw [chars_eq_flatMap hne, h, List.flatMap_append, List.flatMap_singleton]

/-- The pieces on the two sides of a slash are found on their own. -/
theorem pieces_append_slash (front back : List Char) :
    pieces (front ++ '/' :: back) = pieces front ++ pieces back := by
  rw [pieces, List.splitOn_append_cons_self, List.filter_append, pieces, pieces]

theorem pieces_of_slash_not_mem (h : '/' ∉ text) :
    pieces text = if text = [] then [] else [text] := by
  rw [pieces, List.splitOn_eq_singleton h]
  by_cases hnil : text = []
  · simp [hnil]
  · simp [hnil]

theorem pieces_flatMap {segments : List (List Char)}
    (h : ∀ segment ∈ segments, IsSegment segment) :
    pieces (segments.flatMap ('/' :: ·)) = segments := by
  induction segments using List.reverseRecOn with
  | nil => decide
  | append_singleton front last ih =>
    obtain ⟨hfront, hlast⟩ := List.forall_mem_append.1 h
    obtain ⟨hne, hslash, -⟩ := hlast last (by simp)
    rw [List.flatMap_append, List.flatMap_singleton, pieces_append_slash, ih hfront,
      pieces_of_slash_not_mem hslash, if_neg hne]

/-- The segments of a path are the pieces of its text. -/
theorem pieces_chars (path : LogicalPath) : pieces path.chars = path.segments := by
  by_cases hroot : path.segments = []
  · rw [chars, relative, hroot]
    decide
  · rw [chars_eq_flatMap hroot]
    exact pieces_flatMap path.isSegment

/-- Between two slashes stands a segment, which is not empty. -/
theorem not_isInfix_flatMap_segments {segments : List (List Char)}
    (h : ∀ segment ∈ segments, IsSegment segment) :
    ¬['/', '/'] <:+: segments.flatMap ('/' :: ·) := by
  induction segments with
  | nil => simp
  | cons segment segments ih =>
    obtain ⟨⟨hne, hslash, -⟩, hrest⟩ := List.forall_mem_cons.1 h
    have hplain : ∀ c ∈ segment, c ∉ ['/', '/'] := by
      rintro c hc hmark
      rw [List.mem_pair, or_self] at hmark
      exact hslash (hmark ▸ hc)
    rw [List.flatMap_cons, List.cons_append, List.infix_cons_iff,
      isInfix_append_iff_right (by simp) hplain, not_or]
    refine ⟨?_, ih hrest⟩
    intro hstarts
    obtain ⟨c, rest, rfl⟩ := List.exists_cons_of_ne_nil hne
    rw [List.cons_append, List.cons_prefix_cons, List.cons_prefix_cons] at hstarts
    exact hslash (hstarts.2.1 ▸ List.mem_cons_self)

/-- No slash of a path follows another. -/
theorem not_isInfix_chars (path : LogicalPath) : ¬['/', '/'] <:+: path.chars := by
  by_cases hroot : path.segments = []
  · rw [chars, relative, hroot]
    decide
  · rw [chars_eq_flatMap hroot]
    exact not_isInfix_flatMap_segments path.isSegment

/-! ## The path that a text denotes -/

/-- A text that starts with a slash denotes the path whose segments are its pieces. -/
theorem ofAbsolute_eq_ok_iff : ofAbsolute text = .ok path ↔ path.segments = pieces text := by
  rw [ofAbsolute]
  split
  · rw [Except.ok.injEq]
    constructor
    · rintro rfl
      rfl
    · intro h
      exact segments_injective h.symm
  · next hdots =>
    refine iff_of_false (by simp) ?_
    intro h
    apply hdots
    intro piece hpiece
    obtain ⟨-, -, hdot, hdouble⟩ := path.isSegment piece (h ▸ hpiece)
    simp [isDots, hdot, hdouble]

/-- A text denotes a path if a slash is the first character that is not white space, and then the
pieces without the white space around the text are the segments. -/
theorem ofChars_eq_ok_iff : ofChars text = .ok path ↔
    (trim text).head? = some '/' ∧ path.segments = pieces (trim text) := by
  rw [ofChars]
  split
  next hnil => simp [hnil]
  next rest hrest => rw [ofAbsolute_eq_ok_iff, hrest, List.head?_cons, and_iff_right rfl]
  next hnil hslash =>
    refine iff_of_false (by simp) ?_
    rintro ⟨hhead, -⟩
    obtain ⟨rest, hrest⟩ := List.head?_eq_some_iff.1 hhead
    exact hslash rest hrest

/-- White space is removed from the end of a path only. -/
theorem trim_slash (text : List Char) : trim ('/' :: text) = '/' :: trimEnd text :=
  trimEnd_append_cons (by decide) [] text

/-- A name denotes below a path what comes below it, without the white space at the end of the name.
-/
theorem join_eq_ok_iff {name : String} : path.join name = .ok result ↔
    result.segments = path.segments ++ pieces (trimEnd name.toList) := by
  have htrim :
      trim (path.chars ++ '/' :: name.toList) = path.chars ++ '/' :: trimEnd name.toList := by
    rw [chars, List.cons_append, trim_slash, trimEnd_append_cons (by decide)]
    rfl
  have hhead : (path.chars ++ '/' :: trimEnd name.toList).head? = some '/' := rfl
  rw [join, ofChars_eq_ok_iff, htrim, and_iff_right hhead, pieces_append_slash, pieces_chars]

/-- The text of a path denotes the path with the pieces that are left without white space at the
end. -/
theorem parse_text_eq_ok_iff :
    parse path.text = .ok result ↔ result.segments = pieces (trim path.chars) := by
  have hhead : (trim path.chars).head? = some '/' := by
    rw [chars, trim_slash]
    rfl
  rw [parse, text, String.toList_ofList, ofChars_eq_ok_iff, and_iff_right hhead]

/-- White space is removed from the last segment only. -/
theorem trim_chars (h : path.segments = front ++ [name]) :
    trim path.chars = front.flatMap ('/' :: ·) ++ '/' :: trimEnd name := by
  have hstart : trimStart path.chars = path.chars := trimStart_eq_self (by simp [chars, isBlank])
  rw [trim, hstart, chars_eq_append h, trimEnd_append_cons (by decide)]

theorem slash_not_mem_trimEnd (h : '/' ∉ name) : '/' ∉ trimEnd name := by
  obtain ⟨removed, hremoved, -⟩ := dropEnd_append_removed isBlank name
  intro hmem
  apply h
  rw [hremoved]
  exact List.mem_append_left _ hmem

/-- The text of a path denotes the same as its last segment below its parent. -/
theorem parse_text_eq_ok_iff_of_segments (h : path.segments = front ++ [name]) :
    parse path.text = .ok result ↔ result.segments = front ++ pieces (trimEnd name) := by
  have hfront : ∀ segment ∈ front, IsSegment segment := by
    intro segment hsegment
    exact path.isSegment segment (by simp [h, hsegment])
  rw [parse_text_eq_ok_iff, trim_chars h, pieces_append_slash, pieces_flatMap hfront]

/-- A path is found again in its text if there is no white space at its end. -/
theorem parse_text_iff (path : LogicalPath) :
    parse path.text = .ok path ↔ IsTrimmed path.chars := by
  rw [← trim_eq_self_iff]
  constructor
  · intro h
    rcases List.eq_nil_or_concat path.segments with hroot | ⟨front, name, hsegments⟩
    · rw [chars, relative, hroot]
      decide
    · rw [List.concat_eq_append] at hsegments
      obtain ⟨hne, hslash, -⟩ := path.isSegment name (by simp [hsegments])
      rw [parse_text_eq_ok_iff_of_segments hsegments, hsegments, List.append_cancel_left_eq,
        pieces_of_slash_not_mem (slash_not_mem_trimEnd hslash)] at h
      split at h
      · cases h
      · rw [trim_chars hsegments, ← List.singleton_inj.1 h, ← chars_eq_append hsegments]
  · intro h
    rw [parse_text_eq_ok_iff, h, pieces_chars]

/-- The text that a path is written with, and a slash behind it, denotes the path. -/
theorem parse_text_append_slash (path : LogicalPath) : parse (path.text ++ "/") = .ok path := by
  have hjoin : path.join "" = .ok path := join_eq_ok_iff.2 (List.append_nil _).symm
  rw [parse, text, String.toList_append, String.toList_ofList]
  exact hjoin

/-- A text that does not end with a slash denotes a path that is found again. -/
theorem isTrimmed_chars_of_parse {text : String} (h : parse text = .ok path)
    (hend : (trim text.toList).getLast? ≠ some '/') : IsTrimmed path.chars := by
  obtain ⟨hhead, hsegments⟩ := ofChars_eq_ok_iff.1 h
  obtain ⟨before, last, htext, hslash⟩ :
      ∃ before last, trim text.toList = before ++ '/' :: last ∧ '/' ∉ last := by
    have hmem : '/' ∈ (trim text.toList).reverse := List.mem_reverse.2 (List.mem_of_head? hhead)
    obtain ⟨last, before, hreverse, hslash⟩ := List.eq_append_cons_of_mem hmem
    refine ⟨before.reverse, last.reverse, ?_, by simpa using hslash⟩
    rw [← List.reverse_reverse (trim text.toList), hreverse]
    simp
  have hne : last ≠ [] := by
    rintro rfl
    apply hend
    rw [htext, List.getLast?_concat]
  rw [htext, pieces_append_slash, pieces_of_slash_not_mem hslash, if_neg hne] at hsegments
  refine ⟨by simp [chars, isBlank], ?_⟩
  have htrimmed := (isTrimmed_trim text.toList).2
  rwa [chars_eq_append hsegments, List.getLast?_append_cons, ← List.getLast?_append_cons before,
    ← htext]

/-! ## Parents and names -/

theorem segments_eq_append {name : String} (hparent : path.parent? = some parent)
    (hname : path.fileName? = some name) : path.segments = parent.segments ++ [name.toList] := by
  rw [parent?] at hparent
  split at hparent
  · cases hparent
  · cases hparent
    obtain ⟨last, hlast, rfl⟩ := Option.map_eq_some_iff.1 hname
    rw [String.toList_ofList]
    exact (List.dropLast_append_getLast? last hlast).symm

end LogicalPath

/-- Each path is denoted by a text. It is found again in its own text, in data, and below its parent
by its name, exactly if there is no white space at its end, as there is none if the text it was read
from does not end with a slash. Otherwise its text denotes what its last name denotes below its
parent without the white space at the end of the name. -/
theorem path_read_back_iff (path : LogicalPath) :
    LogicalPath.parse (path.text ++ "/") = .ok path ∧
    (LogicalPath.parse path.text = .ok path ↔ IsTrimmed path.chars) ∧
    (LogicalPath.ofData? path.toData = some path ↔ IsTrimmed path.chars) ∧
    (∀ text, LogicalPath.parse text = .ok path → (trim text.toList).getLast? ≠ some '/' →
      IsTrimmed path.chars) ∧
    ∀ parent name, path.parent? = some parent → path.fileName? = some name →
      (parent.join name = .ok path ↔ IsTrimmed path.chars) ∧
      ∀ result, LogicalPath.parse path.text = .ok result ↔
        result.segments = parent.segments ++ LogicalPath.pieces (trimEnd name.toList) := by
  refine ⟨path.parse_text_append_slash, path.parse_text_iff, ?_,
    fun _ => LogicalPath.isTrimmed_chars_of_parse, ?_⟩
  · rw [← path.parse_text_iff, LogicalPath.ofData?, LogicalPath.toData, Data.asText?_ofText]
    cases hparse : LogicalPath.parse path.text with
    | error e => simp [hparse, Except.toOption]
    | ok result => simp [hparse, Except.toOption]
  · intro parent name hparent hname
    have hsegments := LogicalPath.segments_eq_append hparent hname
    have hread : ∀ result, LogicalPath.parse path.text = .ok result ↔
        result.segments = parent.segments ++ LogicalPath.pieces (trimEnd name.toList) :=
      fun _ => LogicalPath.parse_text_eq_ok_iff_of_segments hsegments
    refine ⟨?_, hread⟩
    rw [LogicalPath.join_eq_ok_iff, ← hread, path.parse_text_iff]

theorem path_read_back_iff_sample :
    let path : LogicalPath := ⟨["alice".toList, "my file".toList], by decide⟩
    let parent : LogicalPath := ⟨["alice".toList], by decide⟩
    LogicalPath.parse path.text = .ok path ∧ LogicalPath.ofData? path.toData = some path ∧
      parent.join "my file" = .ok path := by
  intro path parent
  obtain ⟨-, htext, hdata, hends, hbelow⟩ := path_read_back_iff path
  have htrimmed : IsTrimmed path.chars :=
    hends "//alice/my file" (by decide) (by decide)
  exact ⟨htext.2 htrimmed, hdata.2 htrimmed, (hbelow parent "my file" rfl rfl).1.2 htrimmed⟩

/-- A text that ends with a slash denotes a path that its own text does not denote, and that its
name does not denote below its parent. If dots come before the white space, the text of the path
denotes none. -/
theorem trailing_blank_lost :
    let path : LogicalPath := ⟨["a ".toList], by decide⟩
    let dotted : LogicalPath := ⟨["a".toList, ". ".toList], by decide⟩
    (LogicalPath.parse "/a /" = .ok path ∧ path.text = "/a " ∧
      LogicalPath.parse path.text = .ok ⟨["a".toList], by decide⟩ ∧
      LogicalPath.parse path.text ≠ .ok path ∧ LogicalPath.ofData? path.toData ≠ some path) ∧
    (path.parent? = some .root ∧ path.fileName? = some "a " ∧
      LogicalPath.root.join "a " ≠ .ok path) ∧
    LogicalPath.parse "/a/. /" = .ok dotted ∧
      LogicalPath.parse dotted.text = .error (.relativeSegment "/a/.") := by
  decide

end GridAccess
