import GridAccess.Proofs.Storage.Placement
import GridAccess.Proofs.Ticket.Scope

/-!
# Tickets for new replicas

A new replica lies below the directory of its storage element. What tickets say of it is its path
there: the envelope has it as the path of the replica, and the token permits the access to it. The
path is that of the directory with the place of the file behind it, however many slashes stand
around the text of the directory. Only below the root it starts with two slashes.

## Main statements

- `EnvelopeTarget.storagePath_transferLocation` — without a location by path, the storage path of
  what is transferred is that of the replica
- `new_replica_path` — the path of a new replica, in envelopes and in tokens
- `root_path_doubles_slash` — a new replica below the root
-/

namespace GridAccess

variable {anchor : Option ArchiveAnchor} {element : StorageElement} {endpoint : Endpoint}
  {directory : StorageDirectory}

/-- Without a location by path, the storage path of what is transferred is that of the replica. -/
theorem EnvelopeTarget.storagePath_transferLocation (target : EnvelopeTarget)
    (h : target.pathLocation? anchor = none) :
    storagePath (target.transferLocation anchor).toList =
      storagePath target.replica.location.toList := by
  cases anchor with
  | none => simp only [transferLocation, h, Option.getD_none]
  | some anchor =>
    have htext : (target.replica.location ++ "#" ++ anchor.memberName).toList =
        target.replica.location.toList ++ '#' :: anchor.memberName.toList := by
      simp
    simp only [transferLocation, h, Option.getD_none, htext, Envelope.storagePath_append_anchor]

/-- The storage path of a new replica is its place below the directory of its element. Below all
directories but the root it is the text of the directory with the place behind it, and starts with
one slash. It is the path that envelopes name, and the path that tokens are for unless they name a
path of the catalogue. -/
theorem new_replica_path (hat : element.IsAt endpoint) (hin : element.KeepsIn directory)
    (guid : Guid) :
    storagePath (element.newLocation guid).toList = directory.rooted ++ '/' :: guid.directory ∧
    (storagePath (element.newLocation guid).toList = directory.chars ++ '/' :: guid.directory ↔
      directory.segments ≠ []) ∧
    (StartsWithOneSlash (storagePath (element.newLocation guid).toList) ↔
      directory.segments ≠ []) ∧
    ∀ (access : AccessKind) (target : EnvelopeTarget) (anchor : Option ArchiveAnchor),
      target.replica.location = element.newLocation guid →
      (Envelope.build access target anchor).storagePath =
        some (String.ofList (directory.rooted ++ '/' :: guid.directory)) ∧
      (target.pathLocation? anchor = none →
        ∀ (issuer : TicketIssuer) (request : TicketRequest) (identifier : Guid),
          (request.issued.toNat + issuer.settings.tokenLifetime.toNat < UInt64.size →
            ∃ claims, issuer.claims request identifier (Envelope.build access target anchor) =
              .ok claims) ∧
          ∀ claims, issuer.claims request identifier (Envelope.build access target anchor) =
              .ok claims →
            claims.IsScopedTo access (directory.rooted ++ '/' :: guid.directory)) := by
  have hpath := storagePath_newLocation hat hin guid
  refine ⟨hpath, ?_, ?_, ?_⟩
  · rw [hpath]
    exact rooted_append_eq_iff
  · rw [hpath]
    exact startsWithOneSlash_rooted_iff
  · intro access target anchor hlocation
    refine ⟨?_, ?_⟩
    · rw [Envelope.storagePath_build, hlocation, hpath]
    · intro hnone issuer request identifier
      refine ⟨?_, ?_⟩
      · intro hend
        obtain ⟨_, _, hclaims, -⟩ :=
          issuer.exists_claims_build request identifier access target anchor hend
        exact ⟨_, hclaims⟩
      · intro claims hclaims
        have hscoped := TicketIssuer.isScopedTo_transferLocation hclaims
        rwa [target.storagePath_transferLocation hnone, hlocation, hpath] at hscoped

/-- A directory of two segments. -/
def poolDirectory : StorageDirectory where
  segments := ["data".toList, "pool".toList]
  ne_nil := by decide
  slash_not_mem := by decide
  hash_not_mem := by decide

/-- The directory above all others. -/
def rootDirectory : StorageDirectory where
  segments := []
  ne_nil := by decide
  slash_not_mem := by decide
  hash_not_mem := by decide

/-- A storage element at the endpoint of the doors, with slashes behind it. -/
def slashedElement (directory : String) : StorageElement :=
  .basic 3 "ALICE::EXAMPLE::DISK" "root://door.example:1094//" directory

theorem isAt_slashedElement (directory : String) : (slashedElement directory).IsAt doorEndpoint :=
  ⟨2, (by decide : "root://door.example:1094//".toList = doorEndpoint.chars ++ ['/', '/'])⟩

/-- A new replica on such an element. -/
def slashedTarget (directory : String) : EnvelopeTarget where
  file := sampleTarget.file
  replica := ⟨⟨1⟩, 3, (slashedElement directory).newLocation ⟨1⟩⟩
  element := slashedElement directory
  path := none

theorem new_replica_path_sample : ∃ claims,
    (slashedElement "data/pool/").IsAt doorEndpoint ∧
    (slashedElement "data/pool/").KeepsIn poolDirectory ∧
    sampleIssuer.claims ⟨0, "alice"⟩ ⟨0⟩ (.build .write (slashedTarget "data/pool/") none) =
      .ok claims ∧
    claims.scope =
      "storage.write:/data/pool/01/00001/00000000-0000-0000-0000-000000000001" := by
  have hin : (slashedElement "data/pool/").KeepsIn poolDirectory :=
    ⟨[], by simp, 1, (by decide : "data/pool/".toList = [] ++ poolDirectory.relative ++ ['/'])⟩
  obtain ⟨-, -, -, htickets⟩ := new_replica_path (isAt_slashedElement "data/pool/") hin ⟨1⟩
  obtain ⟨-, htokens⟩ := htickets .write (slashedTarget "data/pool/") none rfl
  obtain ⟨hexists, hscoped⟩ := htokens rfl sampleIssuer ⟨0, "alice"⟩ ⟨0⟩
  obtain ⟨claims, hclaims⟩ := hexists (by decide)
  refine ⟨claims, isAt_slashedElement _, hin, hclaims, ?_⟩
  rw [(hscoped claims hclaims).scope]
  decide +kernel

/-- A new replica below the root has a path with two slashes in front, and so has its token. -/
theorem root_path_doubles_slash : ∃ claims,
    (slashedElement "/").IsAt doorEndpoint ∧ (slashedElement "/").KeepsIn rootDirectory ∧
    storagePath ((slashedElement "/").newLocation ⟨1⟩).toList ≠
      rootDirectory.chars ++ '/' :: Guid.directory ⟨1⟩ ∧
    (Envelope.build .write (slashedTarget "/") none).storagePath =
      some "//01/00001/00000000-0000-0000-0000-000000000001" ∧
    sampleIssuer.claims ⟨0, "alice"⟩ ⟨0⟩ (.build .write (slashedTarget "/") none) = .ok claims ∧
    claims.scope = "storage.write://01/00001/00000000-0000-0000-0000-000000000001" := by
  have hin : (slashedElement "/").KeepsIn rootDirectory :=
    ⟨[], by simp, 1, (by decide : "/".toList = [] ++ rootDirectory.relative ++ ['/'])⟩
  have hpath := storagePath_newLocation (isAt_slashedElement "/") hin ⟨1⟩
  obtain ⟨_, _, hclaims, -⟩ := sampleIssuer.exists_claims_build ⟨0, "alice"⟩ ⟨0⟩ .write
    (slashedTarget "/") none (by decide)
  have hscoped := TicketIssuer.isScopedTo_transferLocation hclaims
  rw [(slashedTarget "/").storagePath_transferLocation rfl] at hscoped
  refine ⟨_, isAt_slashedElement "/", hin, ?_, ?_, hclaims, ?_⟩
  · rw [hpath, ne_eq, rooted_append_eq_iff]
    exact not_not_intro rfl
  · rw [Envelope.storagePath_build, slashedTarget, hpath]
    decide +kernel
  · rw [hscoped.scope, slashedTarget, hpath]
    decide +kernel

end GridAccess
