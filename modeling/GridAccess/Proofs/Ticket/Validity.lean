import GridAccess.Proofs.Ticket.Bearer

/-!
# When bearer tokens are accepted

The times at which a token is accepted are an interval: from a minute before it becomes valid to a
minute after it expires, both included. Clocks may be so far apart, and nothing else depends on the
time. So a token is still accepted when it has expired, unlike a signed ticket.

## Main statements

- `verifyToken_times` — at which times an accepted token is accepted
-/

namespace GridAccess

open Crypto Text

variable {verifier : TicketIssuer} {claims : TokenClaims} {token audience : String} {now : UInt64}

/-- What the check of a token gives at some time, if issuer and audience are right. -/
theorem TicketIssuer.verifyToken_eq_of_signedClaims
    (hread : verifier.signedClaims token = .ok claims)
    (hissuer : claims.issuer = verifier.settings.tokenIssuer)
    (haudience : claims.audience = audience) (now : UInt64) :
    verifier.verifyToken token audience now =
      if claims.expires.toNat + clockLeeway < now.toNat then .error .expired
      else if now.toNat + clockLeeway < claims.notBefore.toNat then .error .immature
      else .ok claims := by
  have hsame : ¬claims.issuer ≠ verifier.settings.tokenIssuer ∧ ¬claims.audience ≠ audience :=
    ⟨not_not.2 hissuer, not_not.2 haudience⟩
  rw [verifyToken_eq_bind, hread, Except.bind, checkClaims, if_neg hsame.1, if_neg hsame.2]

/-- There is a token of the sample that was issued at 100 and expires at 86500. -/
theorem exists_token_sample : ∃ ticket claims,
    sampleIssuer.token ⟨100, "alice"⟩ ⟨1⟩ sampleEnvelope = .ok ticket ∧
    claims.notBefore = 100 ∧ claims.expires = 86500 ∧
    ∀ now, sampleIssuer.verifyToken ticket.text "ALICE::EXAMPLE::DISK" now =
      if claims.expires.toNat + clockLeeway < now.toNat then .error .expired
      else if now.toNat + clockLeeway < claims.notBefore.toNat then .error .immature
      else .ok claims := by
  have hkeys : sampleIssuer.keys.signing.SignsFor sampleIssuer.keys.signingPublic :=
    signsFor_mersenneRing
  have hend : (100 : UInt64).toNat + sampleIssuer.settings.tokenLifetime.toNat < UInt64.size := by
    decide
  obtain ⟨ticket, audience, expires, hticket, haudience, hsum, -, hread⟩ :=
    TicketIssuer.exists_token_build ⟨100, "alice"⟩ ⟨1⟩ .read sampleTarget none hkeys
      le_size_sampleIssuer hend
  have hsaid : audience = "ALICE::EXAMPLE::DISK" :=
    Option.some.inj (haudience.symm.trans audience_sample)
  let claims := sampleIssuer.claimsUntil ⟨100, "alice"⟩ ⟨1⟩ .read
    (sampleTarget.transferLocation none) audience expires
  have hexpires : claims.expires = 86500 := UInt64.toNat_inj.1 hsum
  refine ⟨ticket, claims, hticket, rfl, hexpires, ?_⟩
  exact TicketIssuer.verifyToken_eq_of_signedClaims
    ((hread claims).2 ⟨isTokenKey_sampleIssuer, rfl⟩) rfl hsaid

/-- A token that is accepted at some time is accepted at exactly the times from a minute before it
becomes valid to a minute after it expires. Later it is refused as expired, and earlier as not yet
valid. -/
theorem verifyToken_times (h : verifier.verifyToken token audience now = .ok claims) :
    (claims.notBefore.toNat ≤ now.toNat + 60 ∧ now.toNat ≤ claims.expires.toNat + 60) ∧
    ∀ other : UInt64, verifier.verifyToken token audience other =
      if claims.expires.toNat + 60 < other.toNat then .error .expired
      else if other.toNat + 60 < claims.notBefore.toNat then .error .immature
      else .ok claims := by
  obtain ⟨hread, hnotBefore, hexpires, hissuer, haudience⟩ :=
    TicketIssuer.verifyToken_eq_ok_iff.1 h
  exact ⟨⟨hnotBefore, hexpires⟩,
    TicketIssuer.verifyToken_eq_of_signedClaims hread hissuer haudience⟩

theorem verifyToken_times_sample : ∃ token claims,
    sampleIssuer.verifyToken token "ALICE::EXAMPLE::DISK" 100 = .ok claims ∧
    sampleIssuer.verifyToken token "ALICE::EXAMPLE::DISK" 86561 = .error .expired ∧
    sampleIssuer.verifyToken token "ALICE::EXAMPLE::DISK" 39 = .error .immature := by
  obtain ⟨ticket, claims, -, hnotBefore, hexpires, hvalid⟩ := exists_token_sample
  rw [hnotBefore, hexpires] at hvalid
  have haccepted : sampleIssuer.verifyToken ticket.text "ALICE::EXAMPLE::DISK" 100 = .ok claims :=
    hvalid 100
  obtain ⟨-, htimes⟩ := verifyToken_times haccepted
  rw [hnotBefore, hexpires] at htimes
  exact ⟨ticket.text, claims, haccepted, htimes 86561, htimes 39⟩

/-- A token is accepted when it expires, and before it is valid. A signed ticket has expired at that
time. -/
theorem expired_token_accepted : ∃ ticket claims,
    sampleIssuer.token ⟨100, "alice"⟩ ⟨1⟩ sampleEnvelope = .ok ticket ∧
    sampleIssuer.verifyToken ticket.text "ALICE::EXAMPLE::DISK" 86500 = .ok claims ∧
    ¬(86500 : UInt64) < claims.expires ∧
    sampleIssuer.verifyToken ticket.text "ALICE::EXAMPLE::DISK" 50 = .ok claims ∧
    ¬claims.notBefore ≤ (50 : UInt64) := by
  obtain ⟨ticket, claims, hticket, hnotBefore, hexpires, hvalid⟩ := exists_token_sample
  rw [hnotBefore, hexpires] at hvalid
  refine ⟨ticket, claims, hticket, hvalid 86500, ?_, hvalid 50, ?_⟩
  · rw [hexpires]
    decide
  · rw [hnotBefore]
    decide

end GridAccess
