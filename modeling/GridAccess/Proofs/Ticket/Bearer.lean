import GridAccess.Proofs.Json.Value
import GridAccess.Proofs.Ticket.RoundTrip
import GridAccess.Ticket.VerifyToken

/-!
# Bearer tokens are read back

The parts of a token hold no dots, so a token is divided where they were put together. Its header
and its claims are read back, and the scope is divided at its first colon, which is the one behind
the access. So what the check gives for an issued token depends on the conditions on the claims
only.

## Main statements

- `TokenClaims.claimsOfData?_toData` — claims are read back from data
- `TokenClaims.storageScope?_of_scope_eq` — the access and the path are read back from a scope
- `TicketIssuer.signedClaims_sealToken` — the claims of a signed token are read back
- `TicketIssuer.verifyToken_eq_ok_iff` — which tokens are accepted, and when
- `verifyToken_token_build` — for whom the token of a granted replica is valid, when, and what it
  says
-/

namespace GridAccess

open Crypto Text

/-! ## Claims -/

namespace TokenClaims

theorem isWritable_toData (claims : TokenClaims) : claims.toData.IsWritable := by
  simp [toData, Data.ofFields, Data.IsWritable, Data.AreWritableFields, Data.ofText, Data.ofWord,
    Numeral.isWellFormed_ofNat]

/-- The claims are read back from their data. -/
theorem claimsOfData?_toData (claims : TokenClaims) :
    claimsOfData? claims.toData = some claims := by
  show ofData? claims.toData = some claims
  simp [toData, Data.ofFields, ofData?, Record.ofData?, Record.occurrences, fieldNames,
    Record.required?, Record.find?]

/-- A scope is divided behind the access, whatever the path holds. -/
theorem storageScope?_of_scope_eq {claims : TokenClaims} {access : String} {path : List Char}
    (hcolon : ':' ∉ access.toList) (h : claims.scope = storageScope access path) :
    claims.storageScope? = some (access, String.ofList path) := by
  have hrest : stripStart? storageMark claims.scope.toList =
      some (access.toList ++ ':' :: path) := by
    rw [h, storageScope, String.toList_ofList, List.append_assoc, stripStart?_append]
  have hcut : cut [':'] (access.toList ++ ':' :: path) = some (access.toList, path) :=
    cut_singleton_eq_some_iff.2 ⟨rfl, hcolon⟩
  rw [storageScope?, hrest]
  simp [hcut]

end TokenClaims

theorem AccessKind.colon_not_mem_name (kind : AccessKind) : ':' ∉ kind.name.toList := by
  cases kind <;> decide

/-! ## Parts -/

/-- The fixed header as data. -/
def tokenHeaderData : Data :=
  .ofFields [("typ", .ofText "JWT"), ("alg", .ofText "RS256"), ("wlcg.ver", .ofText "1.0")]

theorem partBytes_encodeUrl (bytes : List UInt8) :
    partBytes (Base64.encodeUrl bytes) = .ok bytes := by
  rw [partBytes, Base64.decodeUrl?_encodeUrl]

/-- The value of a part is the one that was written. -/
theorem partData_write {α : Type} {ofData? : Data → Option α} {data : Data} {a : α}
    (hdata : data.IsWritable) (h : ofData? data = some a) :
    partData ofData? (Base64.encodeUrl (Json.write data)) = .ok a := by
  rw [partData, partBytes_encodeUrl]
  simp only [bind, Except.bind, Json.parse?_write hdata, Option.bind_some, h]
  rfl

/-- The header names the algorithm of the signature. -/
theorem partData_tokenHeader :
    partData TokenHeader.algorithm? (Base64.encodeUrl tokenHeader) = .ok "RS256" := by
  have hwrite : tokenHeader = Json.write tokenHeaderData := by decide +kernel
  have halgorithm : TokenHeader.algorithm? tokenHeaderData = some "RS256" := by decide +kernel
  have hwritable : tokenHeaderData.IsWritable := by
    simp [tokenHeaderData, Data.ofFields, Data.IsWritable, Data.AreWritableFields, Data.ofText]
  rw [hwrite]
  exact partData_write hwritable halgorithm

/-- The text of a token with a signature. -/
def sealToken (claims : TokenClaims) (signature : List UInt8) : String :=
  String.ofList (tokenMessage claims ++ '.' :: Base64.encodeUrl signature)

/-- A token is divided into the parts that it was put together from. -/
theorem tokenParts_sealToken (claims : TokenClaims) (signature : List UInt8) :
    tokenParts (sealToken claims signature).toList =
      .ok ⟨tokenMessage claims, Base64.encodeUrl tokenHeader,
        Base64.encodeUrl (Json.write claims.toData), Base64.encodeUrl signature⟩ := by
  have hsignature := cutLast_append_cons (Base64.dot_not_mem_encodeUrl signature)
    (tokenMessage claims)
  have hmessage := cutLast_append_cons
    (Base64.dot_not_mem_encodeUrl (Json.write claims.toData)) (Base64.encodeUrl tokenHeader)
  rw [← tokenMessage] at hmessage
  rw [tokenParts, sealToken, String.toList_ofList, hsignature]
  simp only [hmessage]

/-! ## The check -/

variable {issuer verifier : TicketIssuer} {request : TicketRequest} {identifier : Guid}
  {envelope : Envelope} {claims : TokenClaims} {ticket : Ticket} {signature : List UInt8}

/-- The claims of a token whose header and signature are right. -/
def TicketIssuer.signedClaims (issuer : TicketIssuer) (token : String) :
    Except TokenFault TokenClaims := do
  let parts ← tokenParts token.toList
  let algorithm ← partData TokenHeader.algorithm? parts.header
  if algorithm ≠ "RS256" then .error .wrongAlgorithm
  else
    let signature ← partBytes parts.signature
    let key := issuer.keys.signingPublic
    if key.isTokenKey && key.verifies .sha256 (bytesOfChars parts.message) signature then
      partData claimsOfData? parts.claims
    else .error .wrongSignature

/-- A token is checked by checking its claims. Time and audience matter for nothing else. -/
theorem TicketIssuer.verifyToken_eq_bind (issuer : TicketIssuer) (token audience : String)
    (now : UInt64) :
    issuer.verifyToken token audience now =
      (issuer.signedClaims token).bind (checkClaims issuer.settings.tokenIssuer audience now) := by
  rw [verifyToken, signedClaims]
  simp only [bind, Except.bind]
  cases tokenParts token.toList with
  | error e => rfl
  | ok parts =>
    dsimp only
    cases partData TokenHeader.algorithm? parts.header with
    | error e => rfl
    | ok algorithm =>
      dsimp only
      split
      · rfl
      · cases partBytes parts.signature with
        | error e => rfl
        | ok signature =>
          dsimp only
          split
          · rfl
          · rfl

/-- The claims of a token whose signature is right are read back exactly if the size of the key is
right as well. -/
theorem TicketIssuer.signedClaims_sealToken
    (h : verifier.keys.signingPublic.verify .sha256 (bytesOfChars (tokenMessage claims)) signature =
      .ok ()) {found : TokenClaims} :
    verifier.signedClaims (sealToken claims signature) = .ok found ↔
      verifier.keys.signingPublic.isTokenKey = true ∧ found = claims := by
  have hverifies : verifier.keys.signingPublic.verifies .sha256
      (bytesOfChars (tokenMessage claims)) signature = true := by
    rw [RsaPublicKey.verify] at h
    split at h
    · next hverifies => exact hverifies
    · cases h
  have hclaims := partData_write claims.isWritable_toData claims.claimsOfData?_toData
  rw [signedClaims, tokenParts_sealToken]
  simp only [bind, Except.bind, partData_tokenHeader, partBytes_encodeUrl, hverifies, hclaims,
    Bool.and_true, ne_eq, not_true_eq_false, if_false]
  split
  · next hkey => simp [hkey, eq_comm]
  · next hkey => simp [hkey]

/-- Which claims are accepted, and when: clocks may be apart by the leeway. -/
theorem checkClaims_eq_ok_iff {issuerName audience : String} {now : UInt64}
    {accepted : TokenClaims} :
    checkClaims issuerName audience now claims = .ok accepted ↔
      claims.notBefore.toNat ≤ now.toNat + clockLeeway ∧
        now.toNat ≤ claims.expires.toNat + clockLeeway ∧
        claims.issuer = issuerName ∧ claims.audience = audience ∧ accepted = claims := by
  rw [checkClaims]
  constructor
  · intro h
    split at h
    · cases h
    next hexpires =>
    split at h
    · cases h
    next hnotBefore =>
    split at h
    · cases h
    next hissuer =>
    split at h
    · cases h
    next haudience =>
    cases h
    exact ⟨Nat.not_lt.1 hnotBefore, Nat.not_lt.1 hexpires, not_not.1 hissuer, not_not.1 haudience,
      rfl⟩
  · rintro ⟨hnotBefore, hexpires, rfl, rfl, rfl⟩
    rw [if_neg (Nat.not_lt.2 hexpires), if_neg (Nat.not_lt.2 hnotBefore), if_neg (not_not.2 rfl),
      if_neg (not_not.2 rfl)]

/-- Which tokens are accepted, and when. -/
theorem TicketIssuer.verifyToken_eq_ok_iff {token audience : String} {now : UInt64} :
    verifier.verifyToken token audience now = .ok claims ↔
      verifier.signedClaims token = .ok claims ∧
        claims.notBefore.toNat ≤ now.toNat + clockLeeway ∧
        now.toNat ≤ claims.expires.toNat + clockLeeway ∧
        claims.issuer = verifier.settings.tokenIssuer ∧ claims.audience = audience := by
  rw [verifyToken_eq_bind]
  refine bind_eq_ok_iff.trans ?_
  simp only [checkClaims_eq_ok_iff]
  constructor
  · rintro ⟨_, hfound, hnotBefore, hexpires, hissuer, haudience, rfl⟩
    exact ⟨hfound, hnotBefore, hexpires, hissuer, haudience⟩
  · rintro ⟨hfound, hnotBefore, hexpires, hissuer, haudience⟩
    exact ⟨claims, hfound, hnotBefore, hexpires, hissuer, haudience, rfl⟩

/-! ## Issued tokens -/

/-- A token is its claims with their signature. -/
theorem TicketIssuer.token_eq_ok_iff :
    issuer.token request identifier envelope = .ok ticket ↔
      ∃ claims signature, issuer.claims request identifier envelope = .ok claims ∧
        issuer.keys.signing.sign .sha256 (bytesOfChars (tokenMessage claims)) = .ok signature ∧
        ticket = ⟨.token, sealToken claims signature, some claims.expires⟩ := by
  rw [token, bind_eq_ok_iff]
  constructor
  · rintro ⟨claims, hclaims, h⟩
    dsimp only at h
    split at h
    · next signature hsign =>
      cases h
      exact ⟨claims, signature, hclaims, hsign, rfl⟩
    · cases h
  · rintro ⟨claims, signature, hclaims, hsign, rfl⟩
    refine ⟨claims, hclaims, ?_⟩
    simp only [hsign]
    rfl

/-- The claims of an envelope with this location, for an audience and until a time. -/
def TicketIssuer.claimsUntil (issuer : TicketIssuer) (request : TicketRequest) (identifier : Guid)
    (access : AccessKind) (location audience : String) (expires : UInt64) : TokenClaims where
  issuer := issuer.settings.tokenIssuer
  audience := audience
  subject := request.subject
  issued := request.issued
  notBefore := request.issued
  expires := expires
  identifier := identifier.text
  scope := TokenClaims.storageScope access.name (storagePath location.toList)

/-- Claims are made for an envelope with a location and an audience, if the lifetime ends in range.
-/
theorem TicketIssuer.claims_eq (request : TicketRequest) (identifier : Guid)
    {location audience : String}
    (hlocation : envelope.get? .turl = some location)
    (haudience : issuer.settings.tokenAudience.or (envelope.get? .se) = some audience) :
    issuer.claims request identifier envelope =
      match expiry? request.issued issuer.settings.tokenLifetime with
      | some expires =>
        .ok (issuer.claimsUntil request identifier envelope.access location audience expires)
      | none => .error .expiryOverflow := by
  have hchosen : issuer.audience envelope = .ok audience := by
    rw [TicketIssuer.audience]
    cases hconfigured : issuer.settings.tokenAudience with
    | some configured =>
      rw [hconfigured, Option.some_or, Option.some.injEq] at haudience
      rw [haudience]
    | none =>
      rw [hconfigured, Option.none_or] at haudience
      simp only [haudience]
  rw [TicketIssuer.claims, hlocation]
  simp only [bind, Except.bind, hchosen]
  cases expiry? request.issued issuer.settings.tokenLifetime <;> rfl

/-- The envelope of a granted replica names the location and the audience that claims need. -/
theorem TicketIssuer.exists_claims_build_eq (issuer : TicketIssuer) (request : TicketRequest)
    (identifier : Guid) (access : AccessKind) (target : EnvelopeTarget)
    (anchor : Option ArchiveAnchor) :
    ∃ audience,
      issuer.settings.tokenAudience.or ((Envelope.build access target anchor).get? .se) =
        some audience ∧
      issuer.claims request identifier (Envelope.build access target anchor) =
        match expiry? request.issued issuer.settings.tokenLifetime with
        | some expires => .ok (issuer.claimsUntil request identifier access
            (target.transferLocation anchor) audience expires)
        | none => .error .expiryOverflow := by
  let envelope := Envelope.build access target anchor
  have hlocation : envelope.get? .turl = some (target.transferLocation anchor) :=
    Envelope.get?_build access target anchor .turl
  obtain ⟨audience, haudience⟩ :
      ∃ audience, issuer.settings.tokenAudience.or (envelope.get? .se) = some audience := by
    rw [Envelope.get?_build]
    cases issuer.settings.tokenAudience with
    | none => exact ⟨_, rfl⟩
    | some configured => exact ⟨_, rfl⟩
  have hclaims := TicketIssuer.claims_eq request identifier hlocation haudience
  rw [Envelope.access_build] at hclaims
  exact ⟨audience, haudience, hclaims⟩

/-- The claims for a granted replica are made if its lifetime ends in range. -/
theorem TicketIssuer.exists_claims_build (issuer : TicketIssuer) (request : TicketRequest)
    (identifier : Guid) (access : AccessKind) (target : EnvelopeTarget)
    (anchor : Option ArchiveAnchor)
    (hend : request.issued.toNat + issuer.settings.tokenLifetime.toNat < UInt64.size) :
    ∃ audience expires,
      issuer.claims request identifier (Envelope.build access target anchor) =
        .ok (issuer.claimsUntil request identifier access (target.transferLocation anchor) audience
          expires) ∧
      issuer.settings.tokenAudience.or ((Envelope.build access target anchor).get? .se) =
        some audience ∧
      expires.toNat = request.issued.toNat + issuer.settings.tokenLifetime.toNat := by
  obtain ⟨audience, haudience, hclaims⟩ :=
    issuer.exists_claims_build_eq request identifier access target anchor
  have hexpires : expiry? request.issued issuer.settings.tokenLifetime =
      some (request.issued + issuer.settings.tokenLifetime) := if_pos hend
  rw [hexpires] at hclaims
  exact ⟨audience, _, hclaims, haudience, expiry?_eq_some_iff.1 hexpires⟩

/-- The token of a granted replica is made if its lifetime ends in range and the key is large
enough. Whoever accepts the signatures of the key reads its claims back exactly if the size of the
key is right for tokens. -/
theorem TicketIssuer.exists_token_build (request : TicketRequest) (identifier : Guid)
    (access : AccessKind) (target : EnvelopeTarget) (anchor : Option ArchiveAnchor)
    (hkeys : issuer.keys.signing.SignsFor verifier.keys.signingPublic)
    (hsize : 62 ≤ issuer.keys.signing.publicKey.size)
    (hend : request.issued.toNat + issuer.settings.tokenLifetime.toNat < UInt64.size) :
    ∃ ticket audience expires,
      issuer.token request identifier (Envelope.build access target anchor) = .ok ticket ∧
      issuer.settings.tokenAudience.or ((Envelope.build access target anchor).get? .se) =
        some audience ∧
      expires.toNat = request.issued.toNat + issuer.settings.tokenLifetime.toNat ∧
      ticket.expires = some expires ∧
      ∀ found, verifier.signedClaims ticket.text = .ok found ↔
        verifier.keys.signingPublic.isTokenKey = true ∧
          found = issuer.claimsUntil request identifier access (target.transferLocation anchor)
            audience expires := by
  obtain ⟨audience, expires, hclaims, haudience, hexpires⟩ :=
    issuer.exists_claims_build request identifier access target anchor hend
  obtain ⟨signature, hsign⟩ := RsaPrivateKey.exists_signature_sha256 hsize _
  exact ⟨_, audience, expires, token_eq_ok_iff.2 ⟨_, signature, hclaims, hsign, rfl⟩, haudience,
    hexpires, rfl, fun _ => signedClaims_sealToken (hkeys _ _ _ hsign)⟩

/-- The key of the sample is large enough to sign tokens. -/
theorem le_size_sampleIssuer : 62 ≤ sampleIssuer.keys.signing.publicKey.size :=
  Nat.le_trans (by decide) size_sampleIssuer

theorem Crypto.RsaPublicKey.isTokenKey_iff {key : RsaPublicKey} :
    key.isTokenKey = true ↔ 2048 ≤ 8 * key.size ∧ 8 * key.size ≤ 8192 := by
  simp [isTokenKey]

/-- The size of the key of the sample is right for tokens. -/
theorem isTokenKey_sampleIssuer : sampleIssuer.keys.signingPublic.isTokenKey = true := by
  decide +kernel

theorem audience_sample : sampleIssuer.settings.tokenAudience.or (sampleEnvelope.get? .se) =
    some "ALICE::EXAMPLE::DISK" := by
  decide

/-- The token of a granted replica is made if its lifetime ends in range and the key is large
enough. Its claims say what was granted, by whom and to whom, and until when, exactly to the end of
the lifetime. Whoever accepts the signatures of the issuer's key and expects this issuer accepts it
for its audience from when it was issued until it expires, if the key has 2048 to 8192 bits in whole
bytes. It is never accepted for another audience, by whoever expects another issuer, or with a key of
another size. -/
theorem verifyToken_token_build (request : TicketRequest) (identifier : Guid)
    (access : AccessKind) (target : EnvelopeTarget) (anchor : Option ArchiveAnchor)
    (hkeys : issuer.keys.signing.SignsFor verifier.keys.signingPublic)
    (hsize : 62 ≤ issuer.keys.signing.publicKey.size)
    (hend : request.issued.toNat + issuer.settings.tokenLifetime.toNat < UInt64.size) :
    ∃ ticket claims,
      issuer.token request identifier (Envelope.build access target anchor) = .ok ticket ∧
      claims.issuer = issuer.settings.tokenIssuer ∧
      issuer.settings.tokenAudience.or ((Envelope.build access target anchor).get? .se) =
        some claims.audience ∧
      claims.subject = request.subject ∧
      claims.issued = request.issued ∧ claims.notBefore = request.issued ∧
      claims.expires.toNat = request.issued.toNat + issuer.settings.tokenLifetime.toNat ∧
      ticket.expires = some claims.expires ∧ claims.identifier = identifier.text ∧
      (∃ location, (Envelope.build access target anchor).get? .turl = some location ∧
        claims.storageScope? =
          some (access.name, String.ofList (storagePath location.toList))) ∧
      (verifier.settings.tokenIssuer = issuer.settings.tokenIssuer →
        2048 ≤ 8 * verifier.keys.signingPublic.size →
        8 * verifier.keys.signingPublic.size ≤ 8192 → ∀ now : UInt64,
        request.issued ≤ now → now < claims.expires →
        verifier.verifyToken ticket.text claims.audience now = .ok claims) ∧
      ∀ audience now, audience ≠ claims.audience ∨
          verifier.settings.tokenIssuer ≠ issuer.settings.tokenIssuer ∨
          8 * verifier.keys.signingPublic.size < 2048 ∨
          8192 < 8 * verifier.keys.signingPublic.size →
        ∃ error, verifier.verifyToken ticket.text audience now = .error error := by
  obtain ⟨ticket, audience, expires, hticket, haudience, hsum, hexpires, hread⟩ :=
    TicketIssuer.exists_token_build request identifier access target anchor hkeys hsize hend
  have hlocation := Envelope.get?_build access target anchor .turl
  let claims := issuer.claimsUntil request identifier access (target.transferLocation anchor)
    audience expires
  have hscope : claims.scope = TokenClaims.storageScope access.name
      (storagePath (target.transferLocation anchor).toList) := rfl
  refine ⟨ticket, claims, hticket, rfl, haudience, rfl, rfl, rfl, hsum, hexpires, rfl,
    ⟨_, hlocation, ?_⟩, ?_, ?_⟩
  · exact TokenClaims.storageScope?_of_scope_eq access.colon_not_mem_name hscope
  · intro hissuer hleast hlargest now hissued hbefore
    have hkey := RsaPublicKey.isTokenKey_iff.2 ⟨hleast, hlargest⟩
    rw [UInt64.le_iff_toNat_le] at hissued
    rw [UInt64.lt_iff_toNat_lt] at hbefore
    refine TicketIssuer.verifyToken_eq_ok_iff.2
      ⟨(hread claims).2 ⟨hkey, rfl⟩, ?_, ?_, hissuer.symm, rfl⟩
    · exact Nat.le_add_right_of_le hissued
    · exact Nat.le_add_right_of_le (Nat.le_of_lt hbefore)
  · intro other now hdiffers
    cases hverify : verifier.verifyToken ticket.text other now with
    | error e => exact ⟨e, rfl⟩
    | ok found =>
      obtain ⟨hfound, -, -, hissuer, hother⟩ := TicketIssuer.verifyToken_eq_ok_iff.1 hverify
      obtain ⟨hkey, rfl⟩ := (hread found).1 hfound
      obtain ⟨hleast, hlargest⟩ := RsaPublicKey.isTokenKey_iff.1 hkey
      rcases hdiffers with hdiffers | hdiffers | hdiffers | hdiffers
      · exact absurd hother.symm hdiffers
      · exact absurd hissuer.symm hdiffers
      · exact absurd hleast (Nat.not_le.2 hdiffers)
      · exact absurd hlargest (Nat.not_le.2 hdiffers)

theorem verifyToken_token_build_sample : ∃ ticket claims,
    sampleIssuer.token ⟨0, "alice"⟩ ⟨1⟩ sampleEnvelope = .ok ticket ∧
    sampleIssuer.verifyToken ticket.text "ALICE::EXAMPLE::DISK" 3600 = .ok claims ∧
    claims.storageScope? = some ("read", "/data/file") ∧
    ∃ error, sampleIssuer.verifyToken ticket.text "ALICE::EXAMPLE::TAPE" 3600 = .error error := by
  have hkeys : sampleIssuer.keys.signing.SignsFor sampleIssuer.keys.signingPublic :=
    signsFor_mersenneRing
  have hend : (0 : UInt64).toNat + sampleIssuer.settings.tokenLifetime.toNat < UInt64.size := by
    decide
  obtain ⟨ticket, claims, hticket, -, haudience, -, -, -, hsum, -, -, ⟨location, hlocation, hscope⟩,
      haccepted, hrefused⟩ :=
    verifyToken_token_build ⟨0, "alice"⟩ ⟨1⟩ .read sampleTarget none hkeys le_size_sampleIssuer
      hend
  have hclaimed : claims.audience = "ALICE::EXAMPLE::DISK" :=
    Option.some.inj (haudience.symm.trans audience_sample)
  have hplace : location = sampleTarget.replica.location := by
    have hget : sampleEnvelope.get? .turl = some sampleTarget.replica.location := by decide
    exact Option.some.inj (hlocation.symm.trans hget)
  have hbefore : (3600 : UInt64) < claims.expires := by
    have hday : claims.expires.toNat = 86400 := hsum
    rw [UInt64.lt_iff_toNat_lt, hday]
    decide
  have hpath : storagePath sampleTarget.replica.location.toList = "/data/file".toList := by
    decide +kernel
  refine ⟨ticket, claims, hticket, ?_, ?_, ?_⟩
  · rw [← hclaimed]
    obtain ⟨hleast, hlargest⟩ := RsaPublicKey.isTokenKey_iff.1 isTokenKey_sampleIssuer
    exact haccepted rfl hleast hlargest 3600 (by decide) hbefore
  · rw [hscope, hplace, hpath]
    rfl
  · apply hrefused
    rw [hclaimed]
    exact Or.inl (by decide)

end GridAccess
