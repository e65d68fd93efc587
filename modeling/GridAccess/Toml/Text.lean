import GridAccess.Text.Hex
import GridAccess.Toml.Trivia

/-!
# Strings

Strings stand between quotes or apostrophes, on one line or, tripled, on several. Only between quotes
there are escapes.

## Main definitions

- `Toml.escape?` — the character of an escape
- `Toml.quoted?`, `Toml.literal?` — strings on one line
- `Toml.longQuoted?`, `Toml.longLiteral?` — strings on several lines
- `Toml.string?` — a string of any form
-/

namespace GridAccess.Toml

open GridAccess.Text

/-- The characters that escapes of one letter stand for. -/
def letterEscapes : List (Char × Char) :=
  [('b', '\x08'), ('t', '\t'), ('n', '\n'), ('f', '\x0c'), ('r', '\r'), ('"', '"'), ('\\', '\\')]

/-- The character with a number of so many hexadecimal digits, and the text after them. -/
def codePoint? (places : Nat) (text : List Char) : Option (Char × List Char) :=
  match Hex.toNat? (text.take places) with
  | some code =>
    if places ≤ text.length ∧ code.isValidChar then some (Char.ofNat code, text.drop places)
    else none
  | none => none

/-- The character of an escape whose backslash has been read, and the text after it. -/
def escape? : List Char → Option (Char × List Char)
  | [] => none
  | c :: rest =>
    if c = 'u' then codePoint? 4 rest
    else if c = 'U' then codePoint? 8 rest
    else (letterEscapes.lookup c).map fun d => (d, rest)

theorem length_of_escape? {text rest : List Char} {c : Char} (h : escape? text = some (c, rest)) :
    rest.length < text.length := by
  have hcode : ∀ {places : Nat} {text rest : List Char} {c : Char},
      codePoint? places text = some (c, rest) → rest.length ≤ text.length := by
    intro places text rest c h
    unfold codePoint? at h
    split at h
    · split at h
      · simp only [Option.some.injEq, Prod.mk.injEq] at h
        simp [← h.2]
      · cases h
    · cases h
  cases text with
  | nil => simp [escape?] at h
  | cons d text =>
    rw [escape?] at h
    simp only [List.length_cons]
    split at h
    · exact Nat.lt_succ_of_le (hcode h)
    · split at h
      · exact Nat.lt_succ_of_le (hcode h)
      · obtain ⟨_, _, heq⟩ := Option.map_eq_some_iff.1 h
        cases heq
        exact Nat.lt_succ_self _

/-- A string on one line whose opening quote has been read, and the text after its closing quote. -/
def quoted? (text : List Char) : Option (List Char × List Char) :=
  match text with
  | [] => none
  | c :: rest =>
    if c = '"' then some ([], rest)
    else if c = '\\' then
      match _h : escape? rest with
      | some (d, after) => (quoted? after).map fun found => (d :: found.1, found.2)
      | none => none
    else if isPrintable c then (quoted? rest).map fun found => (c :: found.1, found.2)
    else none
termination_by text.length
decreasing_by
  · have := length_of_escape? _h
    simp only [List.length_cons]
    omega
  · simp

/-- A string on one line whose opening apostrophe has been read, and the text after its closing
apostrophe. -/
def literal? : List Char → Option (List Char × List Char)
  | [] => none
  | c :: rest =>
    if c = '\'' then some ([], rest)
    else if isPrintable c then (literal? rest).map fun found => (c :: found.1, found.2)
    else none

/-- How many of a character a text starts with. -/
def runLength (mark : Char) (text : List Char) : Nat :=
  (text.takeWhile (· == mark)).length

/-- Marks at the start of a text that close a long string: three, with up to two in front that belong
to the string. -/
def closing? (mark : Char) (text : List Char) : Option (List Char × List Char) :=
  let run := runLength mark text
  if run < 3 then none
  else
    let own := min (run - 3) 2
    some (List.replicate own mark, text.drop (own + 3))

def skipLines : List Char → List Char
  | '\r' :: '\n' :: rest => skipLines rest
  | c :: rest => if isSpace c || c == '\n' then skipLines rest else c :: rest
  | [] => []

/-- A long string between quotes, with a bound on the number of steps. A backslash at the end of a line
joins it with the next line that is not blank. -/
def longQuoted? : Nat → List Char → Option (List Char × List Char)
  | 0, _ => none
  | steps + 1, text =>
    match closing? '"' text with
    | some found => some found
    | none =>
      match newline? text with
      | some rest => (longQuoted? steps rest).map fun found => ('\n' :: found.1, found.2)
      | none =>
        match text with
        | [] => none
        | c :: rest =>
          if c = '\\' then
            match newline? (skipSpace rest) with
            | some after => longQuoted? steps (skipLines after)
            | none =>
              match escape? rest with
              | some (d, after) =>
                (longQuoted? steps after).map fun found => (d :: found.1, found.2)
              | none => none
          else if isPrintable c then
            (longQuoted? steps rest).map fun found => (c :: found.1, found.2)
          else none

/-- A long string between apostrophes, with a bound on the number of steps. -/
def longLiteral? : Nat → List Char → Option (List Char × List Char)
  | 0, _ => none
  | steps + 1, text =>
    match closing? '\'' text with
    | some found => some found
    | none =>
      match newline? text with
      | some rest => (longLiteral? steps rest).map fun found => ('\n' :: found.1, found.2)
      | none =>
        match text with
        | [] => none
        | c :: rest =>
          if isPrintable c then
            (longLiteral? steps rest).map fun found => (c :: found.1, found.2)
          else none

/-- A text without the line break at its start. -/
def dropNewline (text : List Char) : List Char :=
  (newline? text).getD text

/-- A string of any form, and the text after it. A line break right after the opening marks of a long
string does not belong to it. -/
def string? (text : List Char) : Option (List Char × List Char) :=
  match text with
  | '"' :: '"' :: '"' :: rest => longQuoted? (rest.length + 1) (dropNewline rest)
  | '\'' :: '\'' :: '\'' :: rest => longLiteral? (rest.length + 1) (dropNewline rest)
  | '"' :: rest => quoted? rest
  | '\'' :: rest => literal? rest
  | _ => none

end GridAccess.Toml
