import GridAccess.Proofs.Ticket.Armour
import GridAccess.Proofs.Ticket.RoundTrip

/-!
# Signed tickets inside of encryption

Both kinds of tickets are signed with one key. Whoever holds a signed ticket can encrypt what its
signature covers to the storage elements, with the signature behind it. The check of encrypted
tickets does not ask for the markup form, so it accepts this as an encrypted ticket, and the expiry
is lost.

## Main statements

- `unseal_rewrapped` — what the check gives for a signed ticket inside of encryption
- `unseal_rewrapped_iff` — when a signed ticket inside of encryption is refused
-/

namespace GridAccess

open Crypto Text

variable {keys : KeyRing} {sealed : String} {envelope : Envelope} {issuer : String}
  {issued expires : UInt64} {signature : List UInt8}

/-- The text covered by the signature of a signed ticket ends with a digit of the expiry. -/
theorem signedText_eq_append (envelope : Envelope) (issuer : String) (issued expires : UInt64) :
    ∃ front last, signedText envelope issuer issued expires = front ++ [last] ∧
      last.isDigit = true := by
  obtain ⟨pairs, hpairs⟩ := signedWritten_eq_append envelope issuer issued expires
  have hdigits : (timeText expires).toList = Decimal.digits expires.toNat := String.toList_ofList
  obtain ⟨digits, last, hlast⟩ :=
    (List.eq_nil_or_concat (Decimal.digits expires.toNat)).resolve_left Nat.toDigits_ne_nil
  have hend : (signedText envelope issuer issued expires).getLast? = some last := by
    rw [signedText_eq_rawLine, hpairs, Delimited.getLast?_rawLine]
    simp [hdigits, hlast]
  rcases List.eq_nil_or_concat (signedText envelope issuer issued expires) with
    hnil | ⟨front, c, hc⟩
  · rw [hnil] at hend
    cases hend
  · rw [hc, List.concat_eq_append, List.getLast?_concat, Option.some.injEq] at hend
    refine ⟨front, last, by rw [hc, List.concat_eq_append, hend], ?_⟩
    apply List.all_eq_true.1 (Decimal.all_isDigit_digits expires.toNat)
    rw [hlast]
    simp

theorem readEnvelope_signedText (h : envelope.IsCanonical)
    (hunmarked : IsUnmarked (signedText envelope issuer issued expires)) :
    readEnvelope (signedText envelope issuer issued expires) =
      .ok { envelope with storagePath := envelope.deliveredPath } := by
  have htrim : IsTrimmed (signedText envelope issuer issued expires) := by
    have hline := isTrimmed_signedWritten envelope issuer issued expires
      (by simp : ∀ pair ∈ ([] : List (String × String)), pair.1 ∈ ticketNames) (by simp)
    rwa [List.append_nil, ← signedText_eq_rawLine] at hline
  have hparse : ReceivedEnvelope.parse (String.ofList (signedText envelope issuer issued expires)) =
      .ok ⟨.delimited, signedFields envelope issuer issued expires⟩ := by
    rw [ReceivedEnvelope.parse_eq_ok_delimited_iff, String.toList_ofList, trim_eq_self htrim]
    exact ⟨hunmarked, isLine_signedFields h issuer issued expires,
      signedText_eq_rawLine envelope issuer issued expires⟩
  have hread := ofReceived_signedFields h issuer issued expires
    (by simp : ∀ field ∈ ([] : List EnvelopeField),
      field.key ≠ "pfn" ∧ ∀ key : EnvelopeKey, field.key ≠ key.name)
  rw [List.append_nil] at hread
  rw [readEnvelope, hparse]
  exact hread

/-- A signed ticket inside of encryption is read as an envelope, unless the line of the signature
occurs in the covered text. -/
theorem unseal_rewrapped
    (hverify : keys.signingPublic.verify .sha384
      (bytesOfChars (signedText envelope issuer issued expires)) signature = .ok ())
    (hcontent : keys.decryptText sealed =
      .ok (rewrapped (signedText envelope issuer issued expires) signature)) :
    keys.unseal sealed =
      if signatureLine <:+: signedText envelope issuer issued expires then .error .invalidEncoding
      else (readEnvelope (signedText envelope issuer issued expires)).mapError .envelope := by
  obtain ⟨front, last, htext, hdigit⟩ := signedText_eq_append envelope issuer issued expires
  -- A digit is not in the line, so none begins in the text and ends behind it.
  have hplain : signatureLine.any Char.isDigit = false := by decide
  have hlast : last ∉ signatureLine := by
    intro hmem
    exact List.any_eq_false.1 hplain last hmem hdigit
  rw [htext] at hcontent hverify ⊢
  rw [← List.append_nil (rewrapped _ _)] at hcontent
  refine unseal_eq_of_decryptText (by simp) ?_ hverify hcontent
  intro hoccurs
  by_contra hline
  apply not_isInfix_append_dropLast (by decide) hlast _ hoccurs
  intro hfront
  exact hline (hfront.trans (List.prefix_append _ _).isInfix)

/-- A signed ticket inside of encryption is refused exactly if the line of the signature occurs in
the covered text, or if that text cannot be read as an envelope. It can be read unless its values
hold marks of the markup form, and then the encrypted ticket gives the envelope of the signed one,
without its expiry. -/
theorem unseal_rewrapped_iff (henvelope : envelope.Obtainable)
    (hkeys : keys.signing.SignsFor keys.signingPublic)
    (hsign : keys.signing.sign .sha384
      (bytesOfChars (signedText envelope issuer issued expires)) = .ok signature)
    (hcontent : keys.decryptText sealed = .ok (signedText envelope issuer issued expires ++
      '\n' :: signatureBegin ++ '\n' :: Base64.encodePadded signature ++ '\n' :: signatureEnd)) :
    ((∃ error, keys.unseal sealed = .error error) ↔
      signatureLine <:+: signedText envelope issuer issued expires ∨
        ∃ error, readEnvelope (signedText envelope issuer issued expires) = .error error) ∧
    (IsUnmarked (signedText envelope issuer issued expires) →
      ((∃ error, keys.unseal sealed = .error error) ↔
        signatureLine <:+: signedText envelope issuer issued expires) ∧
      (¬signatureLine <:+: signedText envelope issuer issued expires →
        keys.unseal sealed = .ok { envelope with storagePath := envelope.deliveredPath })) := by
  have hunseal := unseal_rewrapped (hkeys _ _ _ hsign) hcontent
  have hexact : (∃ error, keys.unseal sealed = .error error) ↔
      signatureLine <:+: signedText envelope issuer issued expires ∨
        ∃ error, readEnvelope (signedText envelope issuer issued expires) = .error error := by
    rw [hunseal]
    by_cases hline : signatureLine <:+: signedText envelope issuer issued expires
    · simp [hline]
    · rw [if_neg hline]
      cases readEnvelope (signedText envelope issuer issued expires) with
      | error e => simp [hline]
      | ok other => simp [hline]
  refine ⟨hexact, ?_⟩
  intro hunmarked
  have hread := readEnvelope_signedText henvelope.isCanonical hunmarked
  refine ⟨?_, ?_⟩
  · rw [hexact, hread]
    simp
  · intro hline
    rw [hunseal, if_neg hline, hread]
    rfl

/-- Whoever knows the public key of the storage elements can encrypt any text to them. -/
theorem exists_decryptText_eq (text : List Char) :
    ∃ sealed, mersenneRing.decryptText sealed = .ok text := by
  obtain ⟨ciphertext, hencrypt⟩ := exists_ciphertext_mersennePair (bytesOfChars text)
  have hdecrypt := decrypt_of_encrypt isGenuine_mersennePair isProper_zeroRandomness hencrypt
  exact ⟨_, decryptText_armour rfl hdecrypt⟩

/-- The sample ticket can be signed, and what its signature covers has no line break. -/
theorem exists_sample_signature : ∃ signature, mersenneRing.signing.sign .sha384 (bytesOfChars
      (signedText sampleEnvelope sampleIssuer.settings.issuer 0 86400)) = .ok signature ∧
    ¬signatureLine <:+: signedText sampleEnvelope sampleIssuer.settings.issuer 0 86400 := by
  obtain ⟨signature, hsign⟩ := RsaPrivateKey.exists_signature size_sampleIssuer .sha384
    (bytesOfChars (signedText sampleEnvelope sampleIssuer.settings.issuer 0 86400))
  refine ⟨signature, hsign, ?_⟩
  have hbreak : '\n' ∉ signedText sampleEnvelope sampleIssuer.settings.issuer 0 86400 := by
    decide +kernel
  intro hoccurs
  exact hbreak (hoccurs.subset List.mem_cons_self)

theorem unseal_rewrapped_iff_sample : ∃ sealed signature,
    mersenneRing.decryptText sealed = .ok (rewrapped
      (signedText sampleEnvelope sampleIssuer.settings.issuer 0 86400) signature) ∧
    ¬∃ error, mersenneRing.unseal sealed = .error error := by
  obtain ⟨signature, hsign, hline⟩ := exists_sample_signature
  obtain ⟨sealed, hcontent⟩ := exists_decryptText_eq
    (rewrapped (signedText sampleEnvelope sampleIssuer.settings.issuer 0 86400) signature)
  refine ⟨sealed, signature, hcontent, ?_⟩
  obtain ⟨-, hunmarked⟩ := unseal_rewrapped_iff obtainable_sampleEnvelope
    signsFor_mersenneRing hsign hcontent
  rw [(hunmarked isUnmarked_sampleText).1]
  exact hline

/-- The signed ticket of the sample envelope, encrypted as an encrypted ticket is, is accepted as
one. -/
theorem rewrapped_ticket_accepted : ∃ sealed signature,
    mersenneRing.signing.sign .sha384 (bytesOfChars
      (signedText sampleEnvelope sampleIssuer.settings.issuer 0 86400)) = .ok signature ∧
    mersenneRing.decryptText sealed = .ok
      (signedText sampleEnvelope sampleIssuer.settings.issuer 0 86400 ++ '\n' :: signatureBegin ++
        '\n' :: Base64.encodePadded signature ++ '\n' :: signatureEnd) ∧
    mersenneRing.unseal sealed = .ok sampleEnvelope := by
  obtain ⟨signature, hsign, hline⟩ := exists_sample_signature
  obtain ⟨sealed, hcontent⟩ := exists_decryptText_eq
    (rewrapped (signedText sampleEnvelope sampleIssuer.settings.issuer 0 86400) signature)
  refine ⟨sealed, signature, hsign, hcontent, ?_⟩
  have hcanonical := obtainable_sampleEnvelope.isCanonical
  rw [unseal_rewrapped (signsFor_mersenneRing _ _ _ hsign) hcontent, if_neg hline,
    readEnvelope_signedText hcanonical isUnmarked_sampleText, deliveredPath_sample]
  rfl

end GridAccess
