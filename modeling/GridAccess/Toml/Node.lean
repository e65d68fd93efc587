import GridAccess.Data.Basic

/-!
# Trees of tables

A document builds a tree. Headers and dotted keys create tables on their way; such a table may still
be opened by a header of its own, once, but not if it was created by a dotted key.

## Main definitions

- `Toml.Node` — a value, a table, or a list of tables
- `Toml.editAt` — change the table at a path
- `Toml.openTable?`, `Toml.openItem?` — what headers do
- `Toml.insert?` — what a key with a value does
- `Toml.Node.toData`, `Toml.fieldsData` — a tree as data
-/

namespace GridAccess.Toml

/-- A value, a table, or a list of tables whose last one is open. A table is implied if no header
named it, and dotted if a dotted key created it. -/
inductive Node where
  | leaf (data : Data)
  | table (implied dotted : Bool) (entries : List (String × Node))
  | items (tables : List (List (String × Node)))

/-- The entries of a table in the order of their creation. -/
abbrev Entries := List (String × Node)

/-- The entries with another node for a key. -/
def setEntry (key : String) (node : Node) (entries : Entries) : Entries :=
  entries.map fun entry => if entry.1 = key then (key, node) else entry

/-- Change the table at a path, creating tables on the way. Along a dotted key only implied tables may
be entered. The change is told whether the table is dotted. -/
def editAt (dotted : Bool) (change : Bool → Entries → Option Entries) :
    List String → Bool → Entries → Option Entries
  | [], own, entries => change own entries
  | key :: path, _, entries =>
    match entries.lookup key with
    | none => (editAt dotted change path dotted []).map fun inner =>
        entries ++ [(key, .table true dotted inner)]
    | some (.leaf _) => none
    | some (.table implied own inner) =>
      if dotted && !implied then none
      else (editAt dotted change path own inner).map fun inner =>
        setEntry key (.table implied own inner) entries
    | some (.items tables) =>
      match tables.getLast? with
      | none => none
      | some last => (editAt dotted change path false last).map fun inner =>
          setEntry key (.items (tables.dropLast ++ [inner])) entries

/-- Open a table for a header. It may be there already, if it is implied and not dotted. -/
def openTable? (path : List String) (key : String) (root : Entries) : Option Entries :=
  editAt false (fun _ entries =>
    match entries.lookup key with
    | none => some (entries ++ [(key, .table false false [])])
    | some (.table true false inner) => some (setEntry key (.table false false inner) entries)
    | some _ => none) path false root

/-- Open one more table of a list for a header. -/
def openItem? (path : List String) (key : String) (root : Entries) : Option Entries :=
  editAt false (fun _ entries =>
    match entries.lookup key with
    | none => some (entries ++ [(key, .items [[]])])
    | some (.items tables) => some (setEntry key (.items (tables ++ [[]])) entries)
    | some _ => none) path false root

/-- Insert a value into the table at a dotted path. The key has to be new, and the table must not have
been created by other means than dotted keys, unless the path is empty. -/
def insertDotted? (path : List String) (key : String) (data : Data) (own : Bool)
    (entries : Entries) : Option Entries :=
  editAt true (fun own entries =>
    if own == path.isEmpty then none
    else if (entries.lookup key).isSome then none
    else some (entries ++ [(key, .leaf data)])) path own entries

/-- Insert a value below the table that the last header opened. -/
def insert? (header path : List String) (key : String) (data : Data) (root : Entries) :
    Option Entries :=
  editAt false (insertDotted? path key data) header false root

mutual

def Node.toData : Node → Data
  | .leaf data => data
  | .table _ _ entries => .table (fieldsData entries)
  | .items tables => .list (itemsData tables)

def fieldsData : List (String × Node) → List (Option String × Data)
  | [] => []
  | (key, node) :: entries => (some key, node.toData) :: fieldsData entries

def itemsData : List (List (String × Node)) → List Data
  | [] => []
  | entries :: tables => .table (fieldsData entries) :: itemsData tables

end

end GridAccess.Toml
