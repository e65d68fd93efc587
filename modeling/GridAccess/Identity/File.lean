import GridAccess.Identity.Guid
import GridAccess.Identity.Permissions
import GridAccess.Text.Casing

/-!
# Registered files

What the catalogue knows about the content behind an identifier: its size, its checksum, who owns
it and until when it may be read. Times are seconds since the Unix epoch.

## Main definitions

- `FileRecord` — the registered facts
- `FileRecord.register` — a new record, with the checksum in lower case
- `FileRecord.isExpired` — whether the file must not be read any more
- `FileRecord.hasDigest` — whether the checksum looks like an MD5 digest
-/

namespace GridAccess

open Text

/-- The facts registered about the content of a file. -/
structure FileRecord where
  guid : Guid
  size : UInt64
  md5 : Option String
  owner : String
  group : String
  permissions : Permissions
  created : UInt64
  expires : Option UInt64
  deriving DecidableEq, Repr

namespace FileRecord

/-- A new record with the standard permissions and no expiry. -/
def register (guid : Guid) (size : UInt64) (md5 : Option String) (owner group : String) :
    FileRecord where
  guid := guid
  size := size
  md5 := md5.map fun digest => String.ofList (lowercase digest.toList)
  owner := owner
  group := group
  permissions := .standard
  created := 0
  expires := none

/-- Whether a file must not be read any more: its expiry is not in the future. -/
def isExpired (file : FileRecord) (now : UInt64) : Bool :=
  file.expires.any fun expiry => expiry ≤ now

/-- Whether the checksum is set and has the form of an MD5 digest: 32 hexadecimal digits. -/
def hasDigest (file : FileRecord) : Bool :=
  file.md5.any fun digest => digest.toList.length == 32 && Hex.isDigits digest.toList

end FileRecord

end GridAccess
