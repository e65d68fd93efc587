import GridAccess.Text.Hex
import GridAccess.Text.Utf8

/-!
# Percent escapes

Values between `&` and `=` delimiters write the two delimiters and the percent sign as a percent
sign followed by two hexadecimal digits. Reading accepts such an escape for any byte and leaves a
percent sign that no two digits follow as it is.

## Main definitions

- `Percent.escape` — the delimiters of a text, escaped
- `Percent.unescape?` — the text denoted, if its bytes are UTF-8

## Main statements

- `Percent.amp_not_mem_escape`, `Percent.equals_not_mem_escape` — no delimiter is left
-/

namespace GridAccess.Text.Percent

def escapeChar (c : Char) : List Char :=
  if c = '%' then ['%', '2', '5']
  else if c = '&' then ['%', '2', '6']
  else if c = '=' then ['%', '3', 'D']
  else [c]

/-- A text with its delimiters and percent signs escaped. -/
def escape (text : List Char) : List Char :=
  text.flatMap escapeChar

/-- The value of a byte that is a hexadecimal digit. -/
def hexByte? (b : UInt8) : Option UInt8 :=
  (Hex.value? (Char.ofNat b.toNat)).map UInt8.ofNat

/-- The bytes denoted by bytes with escapes. -/
def unescapeBytes : List UInt8 → List UInt8
  | 0x25 :: a :: b :: rest =>
    match hexByte? a, hexByte? b with
    | some high, some low => (16 * high + low) :: unescapeBytes rest
    | _, _ => 0x25 :: unescapeBytes (a :: b :: rest)
  | c :: rest => c :: unescapeBytes rest
  | [] => []
termination_by bytes => bytes.length

/-- The text denoted by a text with escapes, unless its bytes are not UTF-8. -/
def unescape? (text : String) : Option String :=
  Utf8.decode? (unescapeBytes (Utf8.encode text))

theorem amp_not_mem_escape (text : List Char) : '&' ∉ escape text := by
  simp only [escape, List.mem_flatMap, not_exists, not_and]
  intro c _ h
  grind [escapeChar]

theorem equals_not_mem_escape (text : List Char) : '=' ∉ escape text := by
  simp only [escape, List.mem_flatMap, not_exists, not_and]
  intro c _ h
  grind [escapeChar]

end GridAccess.Text.Percent
