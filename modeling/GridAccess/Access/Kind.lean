import GridAccess.Text.Blank
import GridAccess.Text.Casing

/-!
# Kinds of access

A ticket lets its holder read, write or delete one replica.

## Main definitions

- `AccessKind` — the three kinds
- `AccessKind.name`, `AccessKind.elementText` — the names written into the two envelope formats
- `AccessKind.parse` — the kind denoted by a name in either spelling

## Main statements

- `AccessKind.parse_name`, `AccessKind.parse_elementText` — both spellings are read back
-/

namespace GridAccess

/-- What a ticket permits on a replica: reading it, uploading it once, or removing it. -/
inductive AccessKind where
  | read
  | write
  | delete
  deriving DecidableEq, Repr

/-- A text that names no kind of access. -/
structure UnknownAccess where
  text : String
  deriving DecidableEq, Repr

namespace AccessKind

/-- The name in delimited envelopes and in the scopes of bearer tokens. -/
def name : AccessKind → String
  | .read => "read"
  | .write => "write"
  | .delete => "delete"

/-- The name in markup envelopes, where a write may happen once only. -/
def elementText : AccessKind → String
  | .write => "write-once"
  | kind => kind.name

/-- The kind denoted by a name, whatever its case and the white space around it. -/
def parse (text : String) : Except UnknownAccess AccessKind :=
  let name := String.ofList (Text.lowercase (Text.trim text.toList))
  if name = "read" then .ok .read
  else if name = "write" ∨ name = "write-once" then .ok .write
  else if name = "delete" then .ok .delete
  else .error ⟨text⟩

/-- The name of a kind is read back as that kind. -/
theorem parse_name (kind : AccessKind) : parse kind.name = .ok kind := by
  cases kind <;> rfl

/-- The name of a kind in markup envelopes is read back as that kind. -/
theorem parse_elementText (kind : AccessKind) : parse kind.elementText = .ok kind := by
  cases kind <;> rfl

end AccessKind

def UnknownAccess.message (error : UnknownAccess) : String :=
  s!"unknown access type '{error.text}'"

end GridAccess
