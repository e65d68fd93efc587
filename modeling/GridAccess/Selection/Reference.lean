import GridAccess.Identity.Guid
import GridAccess.Name.LogicalPath

/-!
# References to files

A file is referred to by the identifier of its content or by a path of the catalogue.

## Main definitions

- `FileReference` — one of the two
- `FileReference.parse` — the reference denoted by a text
- `FileReference.text` — the text of a reference
-/

namespace GridAccess

/-- What a file is asked for by. -/
inductive FileReference where
  | content (guid : Guid)
  | name (path : LogicalPath)
  deriving DecidableEq

namespace FileReference

/-- The reference denoted by a text: an identifier in any spelling, else a path. -/
def parse (text : String) : Except PathError FileReference :=
  match Guid.parse text with
  | .ok guid => .ok (.content guid)
  | .error _ => (LogicalPath.parse text).map .name

/-- The text of a reference. -/
def text : FileReference → String
  | .content guid => guid.text
  | .name path => path.text

end FileReference

end GridAccess
