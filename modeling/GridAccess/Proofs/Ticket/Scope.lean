import GridAccess.Proofs.Storage.Endpoint
import GridAccess.Proofs.Ticket.Bearer

/-!
# The scope of tokens for files that are addressed by path

Where files are addressed by path, the token names the file by its path of the catalogue, with or
without a member of an archive behind a hash sign. Since the first hash sign of a location ends its
storage path, a path that holds one itself is cut off there: the token is for what comes before, and
for all that lies below.

## Main definitions

- `EnvelopeTarget.IsNamedBy` — a replica whose location is given by a path

## Main statements

- `EnvelopeTarget.IsNamedBy.storagePath_transferLocation` — the storage path of such a location
- `TicketIssuer.scope_of_claims`, `TicketIssuer.isScopedTo_transferLocation` — the scope of the
  claims for an envelope, and for that of a granted replica
- `scope_of_named_file` — the scope is for the path up to its first hash sign
- `hash_sign_widens_scope` — two files whose tokens are for the same path
-/

namespace GridAccess

/-- A replica on an element where files are addressed by path, and the path that envelopes name. -/
structure EnvelopeTarget.IsNamedBy (target : EnvelopeTarget) (anchor : Option ArchiveAnchor)
    (path : LogicalPath) : Prop where
  namedPath : target.namedPath anchor = some path
  isPathAddressed : target.element.isPathAddressed = true
  isAt : ∃ endpoint, target.element.IsAt endpoint

variable {target : EnvelopeTarget} {anchor : Option ArchiveAnchor} {path : LogicalPath}
  {issuer : TicketIssuer} {request : TicketRequest} {identifier : Guid} {envelope : Envelope}
  {claims : TokenClaims}

/-- The storage path of the location is the path up to its first hash sign: what is behind is taken
for the member of an archive. -/
theorem EnvelopeTarget.IsNamedBy.storagePath_transferLocation (h : target.IsNamedBy anchor path) :
    storagePath (target.transferLocation anchor).toList = withoutAnchor path.chars := by
  obtain ⟨endpoint, hendpoint⟩ := h.isAt
  have hlocation : target.pathLocation? anchor = some (target.element.pathLocation path) := by
    rw [EnvelopeTarget.pathLocation?, h.namedPath]
    exact if_pos h.isPathAddressed
  cases anchor with
  | none =>
    simp only [EnvelopeTarget.transferLocation, hlocation, Option.getD_some]
    exact storagePath_pathLocation hendpoint path
  | some anchor =>
    have htext : (target.element.pathLocation path ++ "#" ++ anchor.memberName).toList =
        (target.element.pathLocation path).toList ++ '#' :: anchor.memberName.toList := by
      simp
    simp only [EnvelopeTarget.transferLocation, hlocation, Option.getD_some, htext,
      Envelope.storagePath_append_anchor, storagePath_pathLocation hendpoint]

/-- The scope is for the access of the envelope below the storage path of its location. -/
theorem TicketIssuer.scope_of_claims {location : String}
    (h : issuer.claims request identifier envelope = .ok claims)
    (hlocation : envelope.get? .turl = some location) :
    claims.scope =
      TokenClaims.storageScope envelope.access.name (storagePath location.toList) := by
  rw [TicketIssuer.claims, hlocation] at h
  simp only [bind, Except.bind] at h
  split at h
  · cases h
  · split at h
    · cases h
    · cases h
      rfl

/-- The claims permit an access below a path, and say so. -/
structure TokenClaims.IsScopedTo (claims : TokenClaims) (access : AccessKind)
    (path : List Char) : Prop where
  scope : claims.scope = storageScope access.name path
  storageScope? : claims.storageScope? = some (access.name, String.ofList path)

/-- The claims for a granted replica are for the storage path of what is transferred. -/
theorem TicketIssuer.isScopedTo_transferLocation {access : AccessKind}
    (hclaims : issuer.claims request identifier (Envelope.build access target anchor) =
      .ok claims) :
    claims.IsScopedTo access (storagePath (target.transferLocation anchor).toList) := by
  have hlocation := Envelope.get?_build access target anchor .turl
  have hscope := TicketIssuer.scope_of_claims hclaims hlocation
  rw [Envelope.access_build] at hscope
  exact ⟨hscope, TokenClaims.storageScope?_of_scope_eq access.colon_not_mem_name hscope⟩

/-- The claims for a file that is addressed by its path are for that path up to its first hash sign.
-/
theorem EnvelopeTarget.IsNamedBy.isScopedTo (h : target.IsNamedBy anchor path)
    {access : AccessKind}
    (hclaims : issuer.claims request identifier (Envelope.build access target anchor) =
      .ok claims) :
    claims.IsScopedTo access (withoutAnchor path.chars) := by
  have hscoped := TicketIssuer.isScopedTo_transferLocation hclaims
  rwa [h.storagePath_transferLocation] at hscoped

/-- The token for a file that is addressed by its path permits the access below that path up to its
first hash sign, whatever member of an archive the location names. So it names the file if its path
holds no hash sign, and two such files have tokens for different paths. -/
theorem scope_of_named_file (h : target.IsNamedBy anchor path) (issuer : TicketIssuer)
    (request : TicketRequest) (identifier : Guid) (access : AccessKind) :
    (((Envelope.build access target anchor).get? .turl).map fun location =>
      storagePath location.toList) = some (withoutAnchor path.chars) ∧
    (request.issued.toNat + issuer.settings.tokenLifetime.toNat < UInt64.size →
      ∃ claims, issuer.claims request identifier (Envelope.build access target anchor) =
        .ok claims) ∧
    ∀ claims, issuer.claims request identifier (Envelope.build access target anchor) = .ok claims →
      claims.IsScopedTo access (withoutAnchor path.chars) ∧
      (claims.IsScopedTo access path.chars ↔ '#' ∉ path.chars) ∧
      ∀ (other : EnvelopeTarget) (otherAnchor : Option ArchiveAnchor) (otherPath : LogicalPath),
        other.IsNamedBy otherAnchor otherPath →
        ∀ (otherIssuer : TicketIssuer) (otherRequest : TicketRequest) (otherIdentifier : Guid)
          (otherAccess : AccessKind) (otherClaims : TokenClaims),
          otherIssuer.claims otherRequest otherIdentifier
            (Envelope.build otherAccess other otherAnchor) = .ok otherClaims →
          (otherClaims.storageScope?.map Prod.snd = claims.storageScope?.map Prod.snd ↔
            withoutAnchor otherPath.chars = withoutAnchor path.chars) ∧
          ('#' ∉ path.chars → '#' ∉ otherPath.chars → otherPath ≠ path →
            otherClaims.storageScope?.map Prod.snd ≠ claims.storageScope?.map Prod.snd) := by
  refine ⟨?_, ?_, ?_⟩
  · rw [Envelope.get?_build]
    exact congrArg some h.storagePath_transferLocation
  · intro hend
    obtain ⟨_, _, hclaims, -⟩ :=
      issuer.exists_claims_build request identifier access target anchor hend
    exact ⟨_, hclaims⟩
  · intro claims hclaims
    have hscoped := h.isScopedTo hclaims
    refine ⟨hscoped, ?_, ?_⟩
    · rw [← withoutAnchor_eq_self_iff]
      constructor
      · intro hwhole
        have hsame := hscoped.storageScope?.symm.trans hwhole.storageScope?
        simpa [String.ofList_inj] using hsame
      · intro hplain
        rwa [hplain] at hscoped
    · intro other otherAnchor otherPath hother _ _ _ _ otherClaims hotherClaims
      have hsame : otherClaims.storageScope?.map Prod.snd = claims.storageScope?.map Prod.snd ↔
          withoutAnchor otherPath.chars = withoutAnchor path.chars := by
        rw [hscoped.storageScope?, (hother.isScopedTo hotherClaims).storageScope?]
        simp [String.ofList_inj]
      refine ⟨hsame, ?_⟩
      intro hplain hotherPlain hne
      rw [ne_eq, hsame, withoutAnchor_eq_self_iff.2 hplain,
        withoutAnchor_eq_self_iff.2 hotherPlain]
      exact fun hchars => hne (LogicalPath.chars_injective hchars)

/-- An endpoint of a storage element. -/
def doorEndpoint : Endpoint where
  scheme := "root".toList
  authority := "door.example:1094".toList
  scheme_ne_nil := by decide
  authority_ne_nil := by decide
  slash_not_mem := by decide
  hash_not_mem := by decide

/-- A storage element at that endpoint where files are addressed by path. -/
def doorElement : StorageElement :=
  .basic 2 "ALICE::EXAMPLE::DCACHE" "root://door.example:1094" "/pool"

/-- A replica of a named file on that element. -/
def namedTarget (path : LogicalPath) : EnvelopeTarget where
  file := sampleTarget.file
  replica := ⟨⟨1⟩, 2, "root://door.example:1094//pool/file"⟩
  element := doorElement
  path := some path

theorem isNamedBy_namedTarget (path : LogicalPath) (guid : Guid) (member : String) :
    (namedTarget path).IsNamedBy (some ⟨guid, member, none⟩) path where
  namedPath := rfl
  isPathAddressed := (by decide +kernel : doorElement.isPathAddressed = true)
  isAt := ⟨doorEndpoint, 0, (by decide : doorElement.endpoint.toList = doorEndpoint.chars ++ [])⟩

theorem scope_of_named_file_sample : ∃ path claims,
    LogicalPath.parse "/alice/data" = .ok path ∧
    sampleIssuer.claims ⟨0, "alice"⟩ ⟨0⟩
      (.build .read (namedTarget path) (some ⟨⟨2⟩, "part#1", none⟩)) = .ok claims ∧
    claims.scope = "storage.read:/alice/data" := by
  let path : LogicalPath := ⟨["alice".toList, "data".toList], by decide⟩
  obtain ⟨-, hexists, hscoped⟩ := scope_of_named_file (isNamedBy_namedTarget path ⟨2⟩ "part#1")
    sampleIssuer ⟨0, "alice"⟩ ⟨0⟩ .read
  obtain ⟨claims, hclaims⟩ := hexists (by decide)
  obtain ⟨-, hwhole, -⟩ := hscoped claims hclaims
  refine ⟨path, claims, by decide +kernel, hclaims, ?_⟩
  rw [(hwhole.2 (by decide)).scope]
  decide

/-- Two files with a hash sign in their paths have tokens for the same path, which is that of
neither and may have other files below it. -/
theorem hash_sign_widens_scope : ∃ path other claims otherClaims,
    LogicalPath.parse "/alice/data#secret" = .ok path ∧
    LogicalPath.parse "/alice/data#other" = .ok other ∧
    sampleIssuer.claims ⟨0, "alice"⟩ ⟨0⟩
      (.build .read (namedTarget path) (some ⟨⟨2⟩, "part", none⟩)) = .ok claims ∧
    sampleIssuer.claims ⟨0, "alice"⟩ ⟨0⟩
      (.build .read (namedTarget other) (some ⟨⟨2⟩, "part", none⟩)) = .ok otherClaims ∧
    claims.scope = "storage.read:/alice/data" ∧ otherClaims.scope = "storage.read:/alice/data" := by
  let path : LogicalPath := ⟨["alice".toList, "data#secret".toList], by decide⟩
  let other : LogicalPath := ⟨["alice".toList, "data#other".toList], by decide⟩
  have hclaims : ∀ target anchor, ∃ claims, sampleIssuer.claims ⟨0, "alice"⟩ ⟨0⟩
      (.build .read target anchor) = .ok claims := by
    intro target anchor
    obtain ⟨_, _, hclaims, -⟩ := sampleIssuer.exists_claims_build ⟨0, "alice"⟩ ⟨0⟩ .read target
      anchor (by decide)
    exact ⟨_, hclaims⟩
  obtain ⟨claims, hpath⟩ := hclaims (namedTarget path) (some ⟨⟨2⟩, "part", none⟩)
  obtain ⟨otherClaims, hother⟩ := hclaims (namedTarget other) (some ⟨⟨2⟩, "part", none⟩)
  refine ⟨path, other, claims, otherClaims, by decide +kernel, by decide +kernel, hpath, hother,
    ?_, ?_⟩
  · rw [((isNamedBy_namedTarget path ⟨2⟩ "part").isScopedTo hpath).scope]
    decide
  · rw [((isNamedBy_namedTarget other ⟨2⟩ "part").isScopedTo hother).scope]
    decide

end GridAccess
