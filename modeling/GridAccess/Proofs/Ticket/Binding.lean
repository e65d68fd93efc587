import GridAccess.Proofs.Envelope.Document
import GridAccess.Proofs.Ticket.Unlisted

/-!
# The signature binds keys and values

Two accepted tickets with the same signed bytes have the same listed keys with the same values,
whatever else they hold and in whatever order. If the bytes are those of an issued ticket, the
values are those that were issued. They are never those of a markup envelope.

## Main statements

- `message?_ne_markup` — the signed bytes are not those of a markup envelope
- `signed_values_bound` — what the signed bytes determine
-/

namespace GridAccess

open Crypto Text

variable {keys : KeyRing} {sealed : String} {selfSigned : Bool} {verified : VerifiedEnvelope}

/-- The bytes that the signature of an accepted ticket covers are not those of a markup envelope. -/
theorem message?_ne_markup (h : keys.verify sealed selfSigned = .ok verified)
    (envelope : Envelope) : verified.message? selfSigned ≠ some (bytesOfChars envelope.markup) := by
  obtain ⟨pairs, keyList, haccepts⟩ := KeyRing.verify_eq_ok_iff.1 h
  intro heq
  rw [haccepts.message?, Option.some.injEq] at heq
  have htext : Delimited.rawLine (pairs ++ trailer selfSigned keyList) = envelope.markup := by
    simpa using congrArg String.toList (Utf8.encode_injective heq)
  -- The covered pairs were read from an unmarked text, but every markup envelope is marked.
  apply envelope.not_isUnmarked_markup
  rw [← htext, isUnmarked_rawLine_iff]
  intro pair hpair
  exact (haccepts.isPair hpair).2

/-- An accepted ticket with the signed bytes of an issued one has the values that were issued. -/
theorem get?_of_message?_eq {envelope : Envelope} {issuer : String} {issued expires : UInt64}
    (henvelope : envelope.IsCanonical) (h : keys.verify sealed true = .ok verified)
    (hmessage : verified.message? true =
      some (bytesOfChars (signedText envelope issuer issued expires)))
    {pair : String × String} (hpair : pair ∈ signedPairs envelope issuer issued expires) :
    verified.get? pair.1 = some pair.2 := by
  obtain ⟨pairs, keyList, haccepts⟩ := KeyRing.verify_eq_ok_iff.1 h
  rw [haccepts.message?, Option.some.injEq] at hmessage
  have htext : Delimited.rawLine pairs =
      Delimited.rawLine (signedWritten envelope issuer issued expires) := by
    have hstring := congrArg String.toList (Utf8.encode_injective hmessage)
    simpa [trailer, signedText_eq_rawLine] using hstring
  have hline := isLine_signedFields henvelope issuer issued expires
  -- Both lines have pairs that can be told apart: one was read, and the other was written to be.
  have hpairs : pairs = signedWritten envelope issuer issued expires := by
    apply Delimited.rawLine_injective haccepts.ne_nil _ _ _ htext
    · simpa [signedWritten] using hline.ne_nil
    · intro written hwritten
      exact (haccepts.isPair (List.mem_append_left _ hwritten)).1
    · intro written hwritten
      obtain ⟨field, hfield, rfl⟩ := List.mem_map.1 hwritten
      exact hline.isPair field hfield
  have hraw : verified.envelope.raw? pair.1 = some (EnvelopeField.ofPair pair).raw := by
    apply haccepts.raw (EnvelopeField.ofPair pair).written
    rw [hpairs, signedWritten]
    exact List.mem_map_of_mem (List.mem_map_of_mem hpair)
  rw [VerifiedEnvelope.get?, ReceivedEnvelope.get?_eq_bind_raw? haccepts.isLine.2.1, hraw,
    Option.bind_some]
  exact hline.unescape _ (List.mem_map_of_mem hpair)

/-- The signed bytes of an accepted ticket determine the list of signed keys, and for each of them
the value as it is written and as it is understood. If the bytes are those that were signed for an
envelope, the ticket has the values of the envelope, its access and its end. The bytes are never
those of a markup envelope, which are signed as well. -/
theorem signed_values_bound (h : keys.verify sealed selfSigned = .ok verified) :
    (∀ otherSealed other, keys.verify otherSealed selfSigned = .ok other →
      other.message? selfSigned = verified.message? selfSigned →
      other.signedKeys = verified.signedKeys ∧ ∀ key ∈ verified.signedKeys, ∃ raw value,
        verified.envelope.raw? key = some raw ∧ other.envelope.raw? key = some raw ∧
        verified.get? key = some value ∧ other.get? key = some value) ∧
    (∀ (envelope : Envelope) (issuer : String) (issued lifetime expires : UInt64),
      selfSigned = true → envelope.Obtainable → expiry? issued lifetime = some expires →
      verified.message? selfSigned =
        some (bytesOfChars (signedText envelope issuer issued expires)) →
      (∀ key value, envelope.get? key = some value → verified.get? key.name = some value) ∧
      verified.access = .ok envelope.access ∧ verified.expires = some expires ∧
      expires.toNat = issued.toNat + lifetime.toNat) ∧
    ∀ envelope : Envelope, verified.message? selfSigned ≠ some (bytesOfChars envelope.markup) := by
  obtain ⟨pairs, keyList, haccepts⟩ := KeyRing.verify_eq_ok_iff.1 h
  refine ⟨?_, ?_, message?_ne_markup h⟩
  · intro otherSealed other hother hmessage
    obtain ⟨otherPairs, otherList, hotherAccepts⟩ := KeyRing.verify_eq_ok_iff.1 hother
    obtain ⟨rfl, rfl⟩ := hotherAccepts.eq_of_message?_eq haccepts hmessage
    refine ⟨hotherAccepts.signedKeys.trans haccepts.signedKeys.symm, ?_⟩
    intro key hkey
    have hvalue := isDetermined_get?_of_mem h (Or.inl hkey) otherSealed other hother hmessage
    rw [haccepts.signedKeys, ← haccepts.pairs_keys] at hkey
    obtain ⟨pair, hpair, rfl⟩ := List.mem_map.1 hkey
    have hraw := haccepts.raw pair hpair
    obtain ⟨field, -, -, -, hfound⟩ :=
      ReceivedEnvelope.exists_of_raw? haccepts.isLine.2.1.nodup hraw
    exact ⟨pair.2, field.value, hraw, hotherAccepts.raw pair hpair, hfound, hvalue.trans hfound⟩
  · rintro envelope issuer issued lifetime expires rfl hobtainable hexpires hmessage
    have hcanonical := hobtainable.isCanonical
    have hvalues : ∀ key value, envelope.get? key = some value →
        verified.get? key.name = some value := by
      intro key value hvalue
      exact get?_of_message?_eq hcanonical h hmessage (mem_signedPairs_of_get?_eq hcanonical hvalue)
    have hend : verified.get? "expires" = some (timeText expires) :=
      get?_of_message?_eq hcanonical h hmessage (expires_mem_signedPairs _ _ _ _)
    refine ⟨hvalues, ?_, expires_eq_of_get?_eq hend, expiry?_eq_some_iff.1 hexpires⟩
    exact Envelope.access_eq_of_get?_eq (hvalues .access _ hcanonical.access)

theorem signed_values_bound_sample :
    ∃ sealed other verified otherVerified, mersenneRing.verify sealed true = .ok verified ∧
      mersenneRing.verify other true = .ok otherVerified ∧ otherVerified ≠ verified ∧
      otherVerified.signedKeys = verified.signedKeys ∧
      otherVerified.get? "size" = some "42" ∧ otherVerified.access = .ok .read ∧
      otherVerified.expires = some 86400 ∧
      otherVerified.message? true ≠ some (bytesOfChars sampleEnvelope.markup) := by
  obtain ⟨sealed, other, signature, hverify, hissued, hother, hmessage, -⟩ :=
    exists_verify_otherPath
  have hne : (sampleVerified signature).withValue "pfn" "/data/other" ≠
      sampleVerified signature := by
    intro heq
    have hvalue := get?_withValue_self (sampleVerified signature) "pfn" "/data/other"
    rw [heq, sampleVerified, get?_pfn_verifiedTicket] at hvalue
    cases hvalue
  obtain ⟨hbound, -, -⟩ := signed_values_bound hverify
  obtain ⟨-, hvalues, hmarkup⟩ := signed_values_bound hother
  obtain ⟨hget, haccess, hexpires, -⟩ := hvalues sampleEnvelope _ 0 86400 86400 rfl
    obtainable_sampleEnvelope rfl (hmessage.trans hissued)
  exact ⟨sealed, other, _, _, hverify, hother, hne, (hbound other _ hother hmessage).1,
    hget .size "42" (by decide), haccess, hexpires, hmarkup sampleEnvelope⟩

end GridAccess
