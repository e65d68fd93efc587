import GridAccess.Proofs.Text.Percent
import Mathlib.Data.List.Infix

/-!
# Escapes and delimiters

An escaped value holds no delimiter of its form and is read back as the value, whatever it looks like.
Every reader of percent escapes that finds the bytes which a text denotes reads it so, since an
escaped text denotes the bytes of the text.

Escapes are written in a pass over the characters, unless there is nothing to escape: then the text
itself is handed out. Entities are read by a search for the next ampersand and the semicolon behind
it, or character by character; both come to the same.

## Main definitions

- `Handed`, `handOut` — what is handed out for a text: the text itself, or a text written for it
- `Percent.IsReader` — a reader that finds the bytes which a text denotes
- `Markup.entities` — the names of entities and the characters they stand for
- `Markup.unescapeSearching?` — reading entities by a search for their ends

## Main statements

- `text_handOut` — handing out the text itself makes no difference
- `Percent.denotes_escape` — an escaped text denotes the bytes of the text
- `Markup.entity?_eq_bind` — an entity is read by its name, which ends at the first semicolon
- `Markup.unescapeSearching?_eq` — both ways of reading entities come to the same
- `escapes_undone` — escaped values hold no delimiter and are read back
-/

namespace GridAccess.Text

/-! ## Handing out texts -/

/-- What is handed out for a text: the text itself, or one that was written for it. -/
inductive Handed where
  | same (text : List Char)
  | written (text : List Char)
  deriving DecidableEq, Repr

def Handed.text : Handed → List Char
  | same text => text
  | written text => text

/-- What is written in a pass over the characters of a text. -/
def writeAll (write : Char → List Char) (text : List Char) : List Char :=
  text.foldl (fun sofar c => sofar ++ write c) []

/-- What is handed out for a text in which some characters have to be written in another way. -/
def handOut (special : List Char) (write : Char → List Char) (text : List Char) : Handed :=
  if text.any special.contains then .written (writeAll write text) else .same text

section Writing

variable {special : List Char} {write : Char → List Char} {text : List Char}

theorem writeAll_eq_flatMap (write : Char → List Char) (text : List Char) :
    writeAll write text = text.flatMap write :=
  List.flatMap_eq_foldl.symm

/-- The text itself is handed out exactly if none of its characters is special. -/
theorem handOut_eq_same_iff : handOut special write text = .same text ↔ ∀ c ∈ text, c ∉ special := by
  rw [handOut]
  split
  · next hany => simpa using hany
  · next hnone => simpa using hnone

/-- Handing out the text itself makes no difference, if all other characters are written as they are.
-/
theorem text_handOut (h : ∀ c, c ∉ special → write c = [c]) (text : List Char) :
    (handOut special write text).text = writeAll write text := by
  by_cases hplain : ∀ c ∈ text, c ∉ special
  · have hwritten : ∀ c ∈ text, write c = [c] := fun c hc => h c (hplain c hc)
    rw [handOut_eq_same_iff.2 hplain, writeAll_eq_flatMap, flatMap_eq_self hwritten]
    rfl
  · rw [handOut, if_pos (by simpa using hplain)]
    rfl

end Writing

namespace Percent

/-- The characters that are escaped between delimiters. -/
def special : List Char := ['%', '&', '=']

theorem escapeChar_of_not_mem {c : Char} (h : c ∉ special) : escapeChar c = [c] := by
  simp only [special, List.mem_cons, List.not_mem_nil, or_false, not_or] at h
  simp only [escapeChar, h, if_false]

/-- A reader that finds the bytes which a text denotes, and fails only if they are not UTF-8. -/
def IsReader (read : String → Option String) : Prop :=
  ∀ (text : String) (bytes : List UInt8), Denotes text.toList bytes → read text = Utf8.decode? bytes

theorem isReader_unescape? : IsReader unescape? := by
  intro text bytes hdenotes
  rw [← denotes_iff.1 hdenotes, ← Utf8.encode_ofList, String.ofList_toList, unescape?]

/-- An escaped text denotes the bytes of the text. -/
theorem denotes_escape (text : String) : Denotes (escape text.toList) (Utf8.encode text) := by
  have hread := unescape?_eq_some_iff.1 (unescape?_escape text.toList)
  rwa [String.toList_ofList, String.ofList_toList] at hread

theorem IsReader.read_escape {read : String → Option String} (h : IsReader read) (text : String) :
    read (String.ofList (escape text.toList)) = some text := by
  have hdenotes := denotes_escape text
  rw [← String.toList_ofList (l := escape text.toList)] at hdenotes
  rw [h _ _ hdenotes, Utf8.decode?_encode]

end Percent

namespace Markup

/-- The characters that are written as entities. -/
def special : List Char := ['&', '<', '>', '"', '\'']

theorem escapeChar_of_not_mem {c : Char} (h : c ∉ special) : escapeChar c = [c] := by
  simp only [special, List.mem_cons, List.not_mem_nil, or_false, not_or] at h
  simp only [escapeChar, h, if_false]

/-- No character of the markup but the ampersand is left. -/
theorem not_mem_escape {d : Char} (h : d ∈ special) (hamp : d ≠ '&') (text : List Char) :
    d ∉ escape text := by
  have hall : special.all (fun c =>
      (escapeChar c).all fun e => !special.contains e || e == '&') = true := by
    decide
  have hwritten : ∀ c ∈ special, d ∈ escapeChar c → d = '&' := by
    intro c hc hd
    simpa [h] using List.all_eq_true.1 (List.all_eq_true.1 hall c hc) d hd
  rw [escape, List.mem_flatMap]
  rintro ⟨c, -, hd⟩
  by_cases hc : c ∈ special
  · exact hamp (hwritten c hc hd)
  · rw [escapeChar_of_not_mem hc, List.mem_singleton] at hd
    exact hc (hd ▸ h)

/-- The names of entities and the characters they stand for. -/
def entities : List (List Char × Char) :=
  [("amp".toList, '&'), ("lt".toList, '<'), ("gt".toList, '>'), ("quot".toList, '"'),
    ("apos".toList, '\'')]

/-- The text denoted by a text with entities, found by a search for the next ampersand and the
semicolon behind it. -/
def unescapeSearching? (text : List Char) : Option (List Char) :=
  match _hamp : cut ['&'] text with
  | none => some text
  | some (before, rest) =>
    match _hsemicolon : cut [';'] rest with
    | none => none
    | some (name, after) =>
      match entities.lookup name with
      | none => none
      | some c => (unescapeSearching? after).map fun denoted => before ++ c :: denoted
termination_by text.length
decreasing_by
  have hamp := congrArg List.length (cut_append _hamp)
  have hsemicolon := congrArg List.length (cut_append _hsemicolon)
  simp only [List.length_append, List.length_cons, List.length_nil] at hamp hsemicolon ⊢
  omega

variable {text rest : List Char} {c : Char}

theorem mem_entities_of_lookup {name : List Char} (h : entities.lookup name = some c) :
    (name, c) ∈ entities := by
  obtain ⟨front, back, hentities, -⟩ := List.lookup_eq_some_iff.1 h
  simp [hentities]

/-- The names of entities hold no semicolon. -/
theorem semicolon_not_mem_of_lookup {name : List Char} (h : entities.lookup name = some c) :
    ';' ∉ name := by
  have hall : ∀ entity ∈ entities, ';' ∉ entity.1 := by decide
  exact hall (name, c) (mem_entities_of_lookup h)

theorem entity?_eq_some_iff : entity? text = some (c, rest) ↔
    ∃ name, entities.lookup name = some c ∧ text = name ++ ';' :: rest := by
  constructor
  · intro h
    rw [entity?.eq_def] at h
    split at h
    · cases h
      exact ⟨"amp".toList, rfl, rfl⟩
    · cases h
      exact ⟨"lt".toList, rfl, rfl⟩
    · cases h
      exact ⟨"gt".toList, rfl, rfl⟩
    · cases h
      exact ⟨"quot".toList, rfl, rfl⟩
    · cases h
      exact ⟨"apos".toList, rfl, rfl⟩
    · cases h
  · rintro ⟨name, hname, rfl⟩
    have hall : ∀ entity ∈ entities, entity? (entity.1 ++ ';' :: rest) = some (entity.2, rest) := by
      simp [entities, entity?]
    exact hall (name, c) (mem_entities_of_lookup hname)

/-- An entity is read by its name, which ends at the first semicolon. -/
theorem entity?_eq_bind (text : List Char) : entity? text =
    (cut [';'] text).bind fun parts => (entities.lookup parts.1).map fun c => (c, parts.2) := by
  ext ⟨c, rest⟩
  rw [entity?_eq_some_iff]
  simp only [Option.bind_eq_some_iff, Option.map_eq_some_iff, Prod.exists, Prod.mk.injEq,
    cut_singleton_eq_some_iff]
  constructor
  · rintro ⟨name, hname, htext⟩
    exact ⟨name, rest, ⟨htext, semicolon_not_mem_of_lookup hname⟩, c, hname, rfl, rfl⟩
  · rintro ⟨name, _, ⟨htext, -⟩, _, hname, rfl, rfl⟩
    exact ⟨name, hname, htext⟩

/-- Characters other than the ampersand stand for themselves. -/
theorem unescape?_append {before : List Char} (h : '&' ∉ before) (rest : List Char) :
    unescape? (before ++ rest) = (unescape? rest).map (before ++ ·) := by
  induction before with
  | nil => simp
  | cons c before ih =>
    have hc : c ≠ '&' := fun heq => h (heq ▸ List.mem_cons_self)
    have hrest := ih fun hamp => h (List.mem_cons_of_mem _ hamp)
    rw [List.cons_append, unescape?_of_ne hc, hrest, Option.map_map]
    rfl

/-- An ampersand without an entity behind it is refused. -/
theorem unescape?_eq_none (h : entity? text = none) : unescape? ('&' :: text) = none := by
  rw [unescape?, if_pos rfl]
  split
  · next found hfound =>
    rw [h] at hfound
    cases hfound
  · rfl

/-- Both ways of reading entities come to the same. -/
theorem unescapeSearching?_eq (text : List Char) : unescapeSearching? text = unescape? text := by
  fun_induction unescapeSearching? text with
  | case1 text hamp =>
    have hnone : '&' ∉ text := by
      intro hmem
      have hsome := cut_isSome_iff_isInfix.2 ((List.singleton_infix_iff _ _).2 hmem)
      rw [hamp] at hsome
      cases hsome
    have hplain := unescape?_append hnone []
    rw [List.append_nil, unescape?, Option.map_some, List.append_nil] at hplain
    exact hplain.symm
  | case2 text before rest hamp hsemicolon =>
    obtain ⟨rfl, hbefore⟩ := cut_singleton_eq_some_iff.1 hamp
    have hentity : entity? rest = none := by rw [entity?_eq_bind, hsemicolon, Option.bind_none]
    rw [unescape?_append hbefore, unescape?_eq_none hentity, Option.map_none]
  | case3 text before rest hamp name after hsemicolon hname =>
    obtain ⟨rfl, hbefore⟩ := cut_singleton_eq_some_iff.1 hamp
    have hentity : entity? rest = none := by
      rw [entity?_eq_bind, hsemicolon, Option.bind_some, hname, Option.map_none]
    rw [unescape?_append hbefore, unescape?_eq_none hentity, Option.map_none]
  | case4 text before rest hamp name after hsemicolon c hname ih =>
    obtain ⟨rfl, hbefore⟩ := cut_singleton_eq_some_iff.1 hamp
    have hentity : entity? rest = some (c, after) := by
      rw [entity?_eq_bind, hsemicolon, Option.bind_some, hname, Option.map_some]
    rw [unescape?_append hbefore, unescape?_entity hentity, ih, Option.map_map]
    rfl

end Markup

/-- Escaped values hold no delimiter and are read back, whatever the values look like: by every
reader that finds the bytes which a text denotes, as ours does, and by both ways of reading entities.
Nor does it matter that a text without special characters is handed out as it is. -/
theorem escapes_undone (value : String) :
    ('&' ∉ Percent.escape value.toList ∧ '=' ∉ Percent.escape value.toList) ∧
    (∀ read, Percent.IsReader read →
      read (String.ofList (Percent.escape value.toList)) = some value) ∧
    Percent.unescape? (String.ofList (Percent.escape value.toList)) = some value ∧
    (∀ c ∈ ['<', '>', '"', '\''], c ∉ Markup.escape value.toList) ∧
    Markup.unescape? (Markup.escape value.toList) = some value.toList ∧
    (∀ text, Markup.unescapeSearching? text = Markup.unescape? text) ∧
    (handOut Percent.special Percent.escapeChar value.toList).text =
      writeAll Percent.escapeChar value.toList ∧
    writeAll Percent.escapeChar value.toList = Percent.escape value.toList ∧
    (handOut Markup.special Markup.escapeChar value.toList).text =
      writeAll Markup.escapeChar value.toList ∧
    writeAll Markup.escapeChar value.toList = Markup.escape value.toList := by
  refine ⟨⟨Percent.amp_not_mem_escape _, Percent.equals_not_mem_escape _⟩, ?_, ?_, ?_,
    Markup.unescape?_escape _, Markup.unescapeSearching?_eq, ?_, writeAll_eq_flatMap _ _, ?_,
    writeAll_eq_flatMap _ _⟩
  · intro read hread
    exact hread.read_escape value
  · exact Percent.isReader_unescape?.read_escape value
  · intro c hc
    have hspecial : ∀ d ∈ ['<', '>', '"', '\''], d ∈ Markup.special ∧ d ≠ '&' := by
      simp [Markup.special]
    exact Markup.not_mem_escape (hspecial c hc).1 (hspecial c hc).2 _
  · exact text_handOut (fun _ => Percent.escapeChar_of_not_mem) _
  · exact text_handOut (fun _ => Markup.escapeChar_of_not_mem) _

/-- A value that looks escaped already, in either form, and has characters of several bytes. -/
theorem escapes_undone_sample :
    Percent.escape "%41&é=100%".toList = "%2541%26é%3D100%25".toList ∧
    Percent.unescape? "%2541%26é%3D100%25" = some "%41&é=100%" ∧
    Markup.escape "&lt;é;&".toList = "&amp;lt;é;&amp;".toList ∧
    Markup.unescapeSearching? "&amp;lt;é;&amp;".toList = some "&lt;é;&".toList := by
  have hpercent : Percent.escape "%41&é=100%".toList = "%2541%26é%3D100%25".toList := by decide
  have hmarkup : Markup.escape "&lt;é;&".toList = "&amp;lt;é;&amp;".toList := by decide
  obtain ⟨-, hread, -⟩ := escapes_undone "%41&é=100%"
  obtain ⟨-, -, -, -, hentities, hsearching, -⟩ := escapes_undone "&lt;é;&"
  have hours := hread Percent.unescape? Percent.isReader_unescape?
  rw [hpercent, String.ofList_toList] at hours
  rw [hmarkup, ← hsearching] at hentities
  exact ⟨hpercent, hours, hmarkup, hentities⟩

end GridAccess.Text
