/-!
# Blanks, comments and line ends

## Main definitions

- `Toml.isSpace`, `Toml.isPrintable` — classes of characters
- `Toml.skipSpace` — the text after blanks
- `Toml.newline?` — the text after a line break
- `Toml.skipTrivia` — the text after blanks, line breaks and comments
- `Toml.lineEnd?` — the text after the end of a line, which may have a comment
-/

namespace GridAccess.Toml

def isSpace (c : Char) : Bool :=
  c == ' ' || c == '\t'

/-- Whether a character may stand in comments and strings: a tab, or any character that is no
control character. -/
def isPrintable (c : Char) : Bool :=
  c == '\t' || (0x20 ≤ c.toNat && c.toNat ≤ 0x7E) || 0x80 ≤ c.toNat

def skipSpace (text : List Char) : List Char :=
  text.dropWhile isSpace

/-- The text after a line break. A carriage return breaks a line only in front of a line feed. -/
def newline? : List Char → Option (List Char)
  | '\n' :: rest => some rest
  | '\r' :: '\n' :: rest => some rest
  | _ => none

/-- The text after blanks, line breaks and comments. -/
def skipTrivia (inComment : Bool) : List Char → List Char
  | '\r' :: '\n' :: rest => skipTrivia false rest
  | c :: rest =>
    if inComment && isPrintable c then skipTrivia true rest
    else if isSpace c || c == '\n' then skipTrivia false rest
    else if c == '#' then skipTrivia true rest
    else c :: rest
  | [] => []

/-- The text after a comment, if there is one. -/
def skipComment : List Char → List Char
  | '#' :: rest => rest.dropWhile isPrintable
  | text => text

/-- The text after the end of a line: blanks and a comment may stand before the line break or the end
of the text. -/
def lineEnd? (text : List Char) : Option (List Char) :=
  match skipComment (skipSpace text) with
  | [] => some []
  | rest => newline? rest

end GridAccess.Toml
