import GridAccess.Text.Search

/-!
# Markup escapes

Values inside of elements write five characters as named entities. Reading accepts exactly the
five entities: a lone ampersand or another name is refused.

## Main definitions

- `Markup.escape` — a text with the five characters as entities
- `Markup.unescape?` — the text denoted, or `none` after a lone ampersand or another entity

## Main statements

- `Markup.lt_not_mem_escape` — no element begins inside of an escaped value
-/

namespace GridAccess.Text.Markup

def escapeChar (c : Char) : List Char :=
  if c = '&' then ['&', 'a', 'm', 'p', ';']
  else if c = '<' then ['&', 'l', 't', ';']
  else if c = '>' then ['&', 'g', 't', ';']
  else if c = '"' then ['&', 'q', 'u', 'o', 't', ';']
  else if c = '\'' then ['&', 'a', 'p', 'o', 's', ';']
  else [c]

/-- A text with the five characters of the markup as entities. -/
def escape (text : List Char) : List Char :=
  text.flatMap escapeChar

/-- The character an entity stands for, and the text after the entity. The ampersand has been
read already. -/
def entity? : List Char → Option (Char × List Char)
  | 'a' :: 'm' :: 'p' :: ';' :: rest => some ('&', rest)
  | 'l' :: 't' :: ';' :: rest => some ('<', rest)
  | 'g' :: 't' :: ';' :: rest => some ('>', rest)
  | 'q' :: 'u' :: 'o' :: 't' :: ';' :: rest => some ('"', rest)
  | 'a' :: 'p' :: 'o' :: 's' :: ';' :: rest => some ('\'', rest)
  | _ => none

theorem length_lt_of_entity? {text rest : List Char} {c : Char}
    (h : entity? text = some (c, rest)) : rest.length < text.length := by
  unfold entity? at h
  split at h <;> simp_all <;> omega

/-- The text denoted by a text with entities. -/
def unescape? : List Char → Option (List Char)
  | [] => some []
  | c :: text =>
    if c = '&' then
      match _h : entity? text with
      | some (d, rest) => (unescape? rest).map (d :: ·)
      | none => none
    else (unescape? text).map (c :: ·)
termination_by text => text.length
decreasing_by
  · have := length_lt_of_entity? _h
    simp only [List.length_cons]
    omega
  · simp

theorem lt_not_mem_escape (text : List Char) : '<' ∉ escape text := by
  simp only [escape, List.mem_flatMap, not_exists, not_and]
  intro c _ h
  unfold escapeChar at h
  repeat (split at h; · simp at h)
  exact absurd (List.mem_singleton.1 h).symm ‹¬c = '<'›

end GridAccess.Text.Markup
