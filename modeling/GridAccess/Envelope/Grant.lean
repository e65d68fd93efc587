import GridAccess.Envelope.Basic
import GridAccess.Identity.File
import GridAccess.Storage.Element

/-!
# Envelopes of granted replicas

What an envelope says follows from the replica it grants. If the replica is asked for because a
file is a member of an archive, the envelope describes the archive and names the member.

## Main definitions

- `EnvelopeTarget` — a replica with what the catalogue knows about it
- `ArchiveAnchor` — the member of an archive that was asked for
- `Envelope.build` — the envelope of a granted replica
-/

namespace GridAccess

open Text

/-- The replica that is granted, with its file, its storage element and its path. For a member of
an archive all of them are those of the archive. -/
structure EnvelopeTarget where
  file : FileRecord
  replica : Replica
  element : StorageElement
  path : Option LogicalPath

/-- The member of an archive that was asked for. -/
structure ArchiveAnchor where
  memberGuid : Guid
  memberName : String
  archivePath : Option LogicalPath
  deriving DecidableEq

/-- Storage elements that envelopes call by another name. -/
def elementAliases : List (String × String) :=
  [("ALICE::CERN::SETEST", "ALICE::CERN::TESTSE")]

/-- The name by which envelopes call a storage element. -/
def elementAlias (name : String) : String :=
  match elementAliases.find? fun entry => eqIgnoringCase name.toList entry.1.toList with
  | some (_, other) => other
  | none => name

namespace EnvelopeTarget

/-- The path an envelope names: that of the archive if it is known. -/
def namedPath (target : EnvelopeTarget) (anchor : Option ArchiveAnchor) : Option LogicalPath :=
  (anchor.bind ArchiveAnchor.archivePath).or target.path

/-- The location by path, for storage elements that are addressed so. -/
def pathLocation? (target : EnvelopeTarget) (anchor : Option ArchiveAnchor) : Option String :=
  match target.namedPath anchor with
  | some path =>
    if target.element.isPathAddressed then some (target.element.pathLocation path) else none
  | none => none

/-- The location to transfer, with the name of the member behind a hash sign. -/
def transferLocation (target : EnvelopeTarget) (anchor : Option ArchiveAnchor) : String :=
  let location := (target.pathLocation? anchor).getD target.replica.location
  match anchor with
  | some anchor => location ++ "#" ++ anchor.memberName
  | none => location

end EnvelopeTarget

/-- The envelope of a granted replica. -/
def Envelope.build (access : AccessKind) (target : EnvelopeTarget)
    (anchor : Option ArchiveAnchor) : Envelope :=
  let path := String.ofList (GridAccess.storagePath target.replica.location.toList)
  (Envelope.start access (some path))
    |>.put .turl (target.transferLocation anchor)
    |>.putOptional .xurl (target.pathLocation? anchor)
    |>.put .lfn (((target.namedPath anchor).map LogicalPath.text).getD LogicalPath.noName)
    |>.put .guid target.file.guid.text
    |>.putOptional .zguid (anchor.map fun anchor => anchor.memberGuid.text)
    |>.put .size (String.ofList (Decimal.digits target.file.size.toNat))
    |>.putOptional .md5 target.file.md5
    |>.put .se (elementAlias target.element.name)

end GridAccess
