import GridAccess.Toml.Date
import GridAccess.Toml.Node
import GridAccess.Toml.Number
import GridAccess.Toml.Text

/-!
# Keys and values

## Main definitions

- `Toml.key?` — a key: one or more parts with dots between them
- `Toml.value?` — any value as data, with bounds on the number of steps and on nesting
-/

namespace GridAccess.Toml

/-- Keys have fewer parts than this, and values are nested less deeply. -/
def depthLimit : Nat := 80

/-- Whether a character may stand in a key without quotes. -/
def isBare (c : Char) : Bool :=
  (c.isAlphanum) || c == '-' || c == '_'

/-- A part of a key, and the text after it. -/
def keyPart? (text : List Char) : Option (String × List Char) :=
  match text with
  | '"' :: rest => (quoted? rest).map fun found => (String.ofList found.1, found.2)
  | '\'' :: rest => (literal? rest).map fun found => (String.ofList found.1, found.2)
  | _ =>
    match text.takeWhile isBare with
    | [] => none
    | part => some (String.ofList part, text.dropWhile isBare)

/-- The parts of a key, with blanks around them, and the text after it. -/
def keyParts? : Nat → List Char → Option (List String × List Char)
  | 0, _ => none
  | steps + 1, text => do
    let (part, rest) ← keyPart? (skipSpace text)
    match skipSpace rest with
    | '.' :: more =>
      let (parts, after) ← keyParts? steps more
      return (part :: parts, after)
    | after => return ([part], after)

/-- The parts of a key: those before the last, the last, and the text after the key. -/
def key? (text : List Char) : Option (List String × String × List Char) := do
  let (parts, rest) ← keyParts? (depthLimit - 1) text
  return (parts.dropLast, ← parts.getLast?, rest)

/-- The text after an equals sign and blanks. -/
def afterEquals? : List Char → Option (List Char)
  | '=' :: rest => some (skipSpace rest)
  | _ => none

/-- A truth value, and the text after it. -/
def bool? : List Char → Option (Data × List Char)
  | 't' :: 'r' :: 'u' :: 'e' :: rest => some (.bool true, rest)
  | 'f' :: 'a' :: 'l' :: 's' :: 'e' :: rest => some (.bool false, rest)
  | _ => none

/-- A value that holds no others, and the text after it. -/
def scalar? (text : List Char) : Option (Data × List Char) :=
  match text with
  | [] => none
  | c :: _ =>
    if c = '"' ∨ c = '\'' then
      (string? text).map fun found => (.ofText (String.ofList found.1), found.2)
    else if c = 't' ∨ c = 'f' then bool? text
    else if looksLikeDate text || looksLikeTime text then moment? text
    else number? text

mutual

/-- A value, and the text after it. -/
def value? : Nat → Nat → List Char → Option (Data × List Char)
  | 0, _, _ => none
  | steps + 1, depth, text =>
    match text with
    | '[' :: rest =>
      if depth + 1 < depthLimit then
        (items? steps (depth + 1) (skipTrivia false rest)).map fun found => (.list found.1, found.2)
      else none
    | '\x7b' :: rest =>
      if depth + 1 < depthLimit then
        match skipSpace rest with
        | '\x7d' :: after => some (.table [], after)
        | inside => (fields? steps (depth + 1) [] inside).map fun found =>
            (.table (fieldsData found.1), found.2)
      else none
    | _ => scalar? text

/-- The items of a list up to its closing bracket. A comma may stand behind the last one. -/
def items? : Nat → Nat → List Char → Option (List Data × List Char)
  | 0, _, _ => none
  | steps + 1, depth, text =>
    match text with
    | ']' :: after => some ([], after)
    | _ => do
      let (item, afterItem) ← value? steps depth text
      match skipTrivia false afterItem with
      | ',' :: rest =>
        let (items, after) ← items? steps depth (skipTrivia false rest)
        return (item :: items, after)
      | ']' :: after => return ([item], after)
      | _ => none

/-- The fields of a table on one line up to its closing brace, after the entries before them. -/
def fields? : Nat → Nat → Entries → List Char → Option (Entries × List Char)
  | 0, _, _, _ => none
  | steps + 1, depth, entries, text => do
    let (path, key, afterKey) ← key? text
    let (data, afterValue) ← value? steps depth (← afterEquals? afterKey)
    let more ← insertDotted? path key data false entries
    match skipSpace afterValue with
    | ',' :: rest => fields? steps depth more rest
    | '\x7d' :: after => return (more, after)
    | _ => none

end

end GridAccess.Toml
