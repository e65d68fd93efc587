import GridAccess.Toml.Value

/-!
# Documents

A document is a sequence of lines: blank ones, comments, headers that open a table, and keys with
values that go into the table opened last.

## Main definitions

- `Toml.State` — the tree built so far and the table that is open
- `Toml.header?`, `Toml.keyLine?` — what two kinds of lines do
- `Toml.parse?` — a document as data
-/

namespace GridAccess.Toml

/-- The tree built so far, and the path of the table that is open. -/
structure State where
  root : Entries
  header : List String

/-- The text after two characters, or after one. -/
def afterBrackets? (double : Bool) : List Char → Option (List Char)
  | ']' :: ']' :: rest => if double then some rest else none
  | ']' :: rest => if double then none else some rest
  | _ => none

/-- A header, whose table becomes the open one, and the text after its line. -/
def header? (state : State) (text : List Char) : Option (State × List Char) := do
  let (double, inside) :=
    match text with
    | '[' :: rest => (true, rest)
    | _ => (false, text)
  let (path, key, afterKey) ← key? inside
  let rest ← lineEnd? (← afterBrackets? double afterKey)
  let root ← if double then openItem? path key state.root else openTable? path key state.root
  return (⟨root, path ++ [key]⟩, rest)

/-- A key with a value, which is inserted below the open table, and the text after its line. -/
def keyLine? (state : State) (text : List Char) : Option (State × List Char) := do
  let (path, key, afterKey) ← key? text
  let (data, afterValue) ← value? (2 * text.length + 2) 0 (← afterEquals? afterKey)
  let rest ← lineEnd? afterValue
  let root ← insert? state.header path key data state.root
  return ({ state with root := root }, rest)

/-- The lines of a document, with a bound on their number. -/
def lines? : Nat → State → List Char → Option Entries
  | 0, _, _ => none
  | steps + 1, state, text =>
    match skipSpace text with
    | [] => some state.root
    | '#' :: rest => do lines? steps state (← lineEnd? ('#' :: rest))
    | '[' :: rest => do
      let (next, after) ← header? state rest
      lines? steps next after
    | line =>
      match newline? line with
      | some rest => lines? steps state rest
      | none => do
        let (next, after) ← keyLine? state line
        lines? steps next after

/-- The data of a document. A mark of the byte order may stand at its start. -/
def parse? (text : List Char) : Option Data :=
  let content :=
    match text with
    | '\uFEFF' :: rest => rest
    | _ => text
  (lines? (content.length + 1) ⟨[], []⟩ content).map fun entries => .table (fieldsData entries)

end GridAccess.Toml
