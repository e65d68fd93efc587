import GridAccess.Identity.Guid
import GridAccess.Identity.Permissions
import GridAccess.Name.LogicalPath

/-!
# Catalogue entries

A path of the catalogue names a file, by the identifier of its content, or a directory.

## Main definitions

- `EntryKind`, `CatalogueEntry` — what a path is bound to
- `CatalogueEntry.file`, `CatalogueEntry.directory` — the two kinds of entries
-/

namespace GridAccess

/-- What a path names. -/
inductive EntryKind where
  | file
  | directory
  deriving DecidableEq, Repr

/-- A path with what it names and who owns it. -/
structure CatalogueEntry where
  path : LogicalPath
  kind : EntryKind
  guid : Option Guid
  owner : String
  group : String
  permissions : Permissions
  deriving DecidableEq

namespace CatalogueEntry

def file (path : LogicalPath) (guid : Guid) (owner group : String) (permissions : Permissions) :
    CatalogueEntry :=
  ⟨path, .file, some guid, owner, group, permissions⟩

/-- The entry of a directory, which has no content. -/
def directory (path : LogicalPath) (owner group : String) (permissions : Permissions) :
    CatalogueEntry :=
  ⟨path, .directory, none, owner, group, permissions⟩

def isDirectory (entry : CatalogueEntry) : Bool :=
  entry.kind == .directory

end CatalogueEntry

def EntryKind.name : EntryKind → String
  | .file => "File"
  | .directory => "Directory"

end GridAccess
