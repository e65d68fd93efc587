import GridAccess.Envelope.Grant
import GridAccess.Proofs.Crypto.Rsa
import GridAccess.Proofs.Ticket.SignedFields

/-!
# Signed tickets are accepted

What the issuer signs is what the check puts together again, and the fields of the ticket say what
the envelope said.

## Main statements

- `TicketIssuer.signed_eq_ok_iff` — the text of a signed ticket
- `accepts_withSignature` — such a text is accepted
- `verify_signed_build` — the ticket of a granted replica is accepted and says what was granted
-/

namespace GridAccess

open Crypto Text

variable {envelope : Envelope} {issuerName : String} {issued expires : UInt64}
  {signature : List UInt8} {keys : KeyRing}

/-- The text of a signed ticket is the covered text with its signature. -/
theorem TicketIssuer.signed_eq_ok_iff {issuer : TicketIssuer} {request : TicketRequest}
    {ticket : Ticket} :
    issuer.signed request envelope = .ok ticket ↔
      ∃ expires signature, expiry? request.issued issuer.settings.lifetime = some expires ∧
        issuer.keys.signing.sign .sha384
          (bytesOfChars (signedText envelope issuer.settings.issuer request.issued expires)) =
            .ok signature ∧
        ticket = ⟨.signed, withSignature
          (signedText envelope issuer.settings.issuer request.issued expires) signature,
          some expires⟩ := by
  rw [signed]
  cases expiry? request.issued issuer.settings.lifetime with
  | none => simp
  | some expires =>
    simp only [Option.some.injEq]
    constructor
    · intro h
      split at h
      · next signature hsignature =>
        cases h
        exact ⟨expires, signature, rfl, hsignature, rfl⟩
      · cases h
    · rintro ⟨_, signature, rfl, hsignature, rfl⟩
      rw [hsignature]

/-- A ticket is made if its lifetime ends in range and the key is large enough. -/
theorem TicketIssuer.exists_signed {issuer : TicketIssuer} {request : TicketRequest}
    (hsize : 78 ≤ issuer.keys.signing.publicKey.size)
    (hend : request.issued.toNat + issuer.settings.lifetime.toNat < UInt64.size)
    (envelope : Envelope) : ∃ ticket, issuer.signed request envelope = .ok ticket := by
  obtain ⟨signature, hsignature⟩ := RsaPrivateKey.exists_signature hsize .sha384
    (bytesOfChars (signedText envelope issuer.settings.issuer request.issued
      (request.issued + issuer.settings.lifetime)))
  refine ⟨_, signed_eq_ok_iff.2 ⟨_, signature, ?_, hsignature, rfl⟩⟩
  rw [expiry?, if_pos hend]

/-! ## The check -/

/-- What the check of a signed ticket gives. -/
def verifiedTicket (envelope : Envelope) (issuer : String) (issued expires : UInt64)
    (signature : List UInt8) : VerifiedEnvelope :=
  ⟨⟨.delimited, ticketFields envelope issuer issued expires signature⟩,
    envelope.keys.map EnvelopeKey.name ++ Envelope.keyListName :: issuerKeys⟩

/-- A field of the covered text has the value that was signed, written with escapes. -/
theorem findField?_verifiedTicket (h : envelope.IsCanonical) {pair : String × String}
    (hpair : pair ∈ signedPairs envelope issuerName issued expires) (signature : List UInt8) :
    (verifiedTicket envelope issuerName issued expires signature).get? pair.1 = some pair.2 ∧
      (verifiedTicket envelope issuerName issued expires signature).envelope.raw? pair.1 =
        some (String.ofList (Percent.escape pair.2.toList)) := by
  have hfield := findField?_signedFields h hpair [signatureField signature]
  refine ⟨?_, ?_⟩
  · simp only [VerifiedEnvelope.get?, ReceivedEnvelope.get?, verifiedTicket, ticketFields, hfield]
    rfl
  · simp only [ReceivedEnvelope.raw?, verifiedTicket, ticketFields, hfield]
    rfl

theorem isTrimmed_withSignature (envelope : Envelope) (issuer : String) (issued expires : UInt64)
    (signature : List UInt8) :
    IsTrimmed (withSignature (signedText envelope issuer issued expires) signature).toList := by
  rw [toList_withSignature, ticketFields, List.map_append]
  apply isTrimmed_signedWritten
  · intro pair hpair
    rw [List.map_singleton, List.mem_singleton] at hpair
    rw [hpair]
    exact (by decide : signatureKey ∈ ticketNames)
  · intro pair hpair c hc
    rw [List.map_singleton, List.getLast?_singleton, Option.mem_some_iff] at hpair
    rw [← hpair] at hc
    have hmem : c ∈ Base64.encodePadded signature := by
      apply List.mem_of_mem_getLast?
      simpa [signatureField, EnvelopeField.written] using hc
    exact Base64.isBlank_of_mem_encodePadded hmem

/-- A text with a signature that is right is accepted. -/
theorem accepts_withSignature (h : envelope.IsCanonical)
    (hverify : keys.signingPublic.verify .sha384
      (bytesOfChars (signedText envelope issuerName issued expires)) signature = .ok ())
    (hunmarked : IsUnmarked
      (withSignature (signedText envelope issuerName issued expires) signature).toList) :
    keys.Accepts (withSignature (signedText envelope issuerName issued expires) signature) true
      (verifiedTicket envelope issuerName issued expires signature)
      (signedWritten envelope issuerName issued expires) (signedKeyList envelope) where
  parse := by
    refine ReceivedEnvelope.parse_eq_ok_delimited_iff.2 ⟨hunmarked, ?_, ?_⟩
    · exact isLine_ticketFields h issuerName issued expires signature
    · rw [trim_eq_self (isTrimmed_withSignature envelope issuerName issued expires signature),
        toList_withSignature]
  format := rfl
  signedKeys := (listedKeys_signedKeyList envelope).symm
  listed := by
    have hpair : (Envelope.keyListName, signedKeyList envelope) ∈
        signedPairs envelope issuerName issued expires := by
      simp [signedPairs]
    obtain ⟨-, hraw⟩ := findField?_verifiedTicket h hpair signature
    rw [escape_signedKeyList, String.ofList_toList] at hraw
    exact hraw
  pairs_keys := by
    rw [keys_signedWritten, listedKeys_signedKeyList]
  raw := by
    intro written hwritten
    rw [signedWritten, signedFields, List.map_map] at hwritten
    obtain ⟨pair, hpair, rfl⟩ := List.mem_map.1 hwritten
    exact (findField?_verifiedTicket h hpair signature).2
  signature := by
    have hline := isLine_ticketFields h issuerName issued expires signature
    have hfound : findField? signatureKey
        (ticketFields envelope issuerName issued expires signature) =
          some (signatureField signature) := by
      refine (findField?_eq_some_iff hline.nodup).2 ⟨?_, rfl⟩
      exact List.mem_append_right _ (List.mem_singleton_self _)
    refine ⟨String.ofList (Base64.encodePadded signature), signature, ?_, ?_, ?_⟩
    · simp only [ReceivedEnvelope.raw?, verifiedTicket, hfound]
      rfl
    · rw [String.toList_ofList, Base64.decodePadded?_encodePadded]
    · -- The list of keys names itself, so nothing follows the listed pairs.
      rw [trailer, if_pos rfl, List.append_nil, ← signedText_eq_rawLine]
      exact hverify

/-- The bytes put together again are those that were signed. -/
theorem message?_withSignature {sealed : String}
    (h : keys.Accepts sealed true (verifiedTicket envelope issuerName issued expires signature)
      (signedWritten envelope issuerName issued expires) (signedKeyList envelope)) :
    (verifiedTicket envelope issuerName issued expires signature).message? true =
      some (bytesOfChars (signedText envelope issuerName issued expires)) := by
  rw [h.message?, trailer, if_pos rfl, List.append_nil, ← signedText_eq_rawLine]

/-! ## What an accepted ticket says -/

theorem keyOrder_verifiedTicket (envelope : Envelope) (issuer : String) (issued expires : UInt64)
    (signature : List UInt8) :
    (verifiedTicket envelope issuer issued expires signature).keyOrder = envelope.keys := by
  have hissuer : (Envelope.keyListName :: issuerKeys).filterMap EnvelopeKey.ofName? = [] := by
    decide
  have hnames : (envelope.keys.map EnvelopeKey.name).filterMap EnvelopeKey.ofName? =
      envelope.keys := by
    rw [List.filterMap_map]
    have hback : EnvelopeKey.ofName? ∘ EnvelopeKey.name = some := by
      funext key
      exact EnvelopeKey.ofName?_name key
    rw [hback, List.filterMap_some]
  rw [VerifiedEnvelope.keyOrder, verifiedTicket, List.filterMap_append, hnames, hissuer,
    List.append_nil]

theorem issuer_verifiedTicket (h : envelope.IsCanonical) (issuer : String)
    (issued expires : UInt64) (signature : List UInt8) :
    (verifiedTicket envelope issuer issued expires signature).issuer = some issuer := by
  have hpair : ("issuer", issuer) ∈ signedPairs envelope issuer issued expires := by
    simp [signedPairs]
  exact (findField?_verifiedTicket h hpair signature).1

theorem expires_eq_of_get?_eq {verified : VerifiedEnvelope} {time : UInt64}
    (h : verified.get? "expires" = some (timeText time)) : verified.expires = some time := by
  rw [VerifiedEnvelope.expires, h, Option.bind_some, timeText, String.toList_ofList,
    Decimal.toUInt64?_digits]

theorem expires_verifiedTicket (h : envelope.IsCanonical) (issuer : String)
    (issued expires : UInt64) (signature : List UInt8) :
    (verifiedTicket envelope issuer issued expires signature).expires = some expires := by
  have hpair := expires_mem_signedPairs envelope issuer issued expires
  exact expires_eq_of_get?_eq (findField?_verifiedTicket h hpair signature).1

theorem key_ne_of_mem_signatureField {field : EnvelopeField}
    (h : field ∈ [signatureField signature]) :
    field.key ≠ "pfn" ∧ ∀ key : EnvelopeKey, field.key ≠ key.name := by
  have hpath : signatureKey ≠ "pfn" := by decide
  rw [List.mem_singleton.1 h]
  refine ⟨hpath, ?_⟩
  intro key hkey
  apply name_not_mem_issuerKeys key
  rw [← hkey]
  exact List.mem_append_right _ (List.mem_singleton_self _)

theorem get?_pfn_verifiedTicket (envelope : Envelope) (issuer : String) (issued expires : UInt64)
    (signature : List UInt8) :
    (verifiedTicket envelope issuer issued expires signature).get? "pfn" = none := by
  apply get?_pfn_signedFields
  intro field hfield
  exact (key_ne_of_mem_signatureField hfield).1

theorem access_verifiedTicket (h : envelope.IsCanonical) (issuer : String)
    (issued expires : UInt64) (signature : List UInt8) :
    (verifiedTicket envelope issuer issued expires signature).access = .ok envelope.access := by
  apply Envelope.access_eq_of_get?_eq
  rw [← h.access]
  refine get?_signedFields h issuer issued expires ?_ .access
  intro field hfield
  exact (key_ne_of_mem_signatureField hfield).2

/-- The envelope is read back, with the path of the replica that its values tell. -/
theorem toEnvelope_verifiedTicket (h : envelope.IsCanonical) (issuer : String)
    (issued expires : UInt64) (signature : List UInt8) :
    (verifiedTicket envelope issuer issued expires signature).toEnvelope =
      .ok { envelope with storagePath := envelope.deliveredPath } := by
  apply ofReceived_signedFields h
  intro field hfield
  exact key_ne_of_mem_signatureField hfield

/-- The signed ticket of a granted replica is accepted by whoever accepts the signatures of the
issuer's key, unless its text holds a mark of the markup form. The bytes put together again are
those that were signed, and the ticket says what was granted, by whom, and until when: exactly to
the end of the lifetime. Only the path of the replica is lost where the location is one by path. -/
theorem verify_signed_build {issuer : TicketIssuer} {request : TicketRequest} {keys : KeyRing}
    {access : AccessKind} {target : EnvelopeTarget} {anchor : Option ArchiveAnchor}
    {ticket : Ticket}
    (hkeys : issuer.keys.signing.SignsFor keys.signingPublic)
    (hticket : issuer.signed request (Envelope.build access target anchor) = .ok ticket)
    (hunmarked : IsUnmarked ticket.text.toList) :
    ∃ verified message signature expires, keys.verify ticket.text true = .ok verified ∧
      message = bytesOfChars (signedText (Envelope.build access target anchor)
        issuer.settings.issuer request.issued expires) ∧
      issuer.keys.signing.sign .sha384 message = .ok signature ∧
      verified.message? true = some message ∧
      verified.signedKeys = (Envelope.build access target anchor).keys.map EnvelopeKey.name ++
        ["hashord", "issuer", "issued", "expires"] ∧
      verified.keyOrder = (Envelope.build access target anchor).keys ∧
      verified.issuer = some issuer.settings.issuer ∧
      verified.expires = some expires ∧
      expires.toNat = request.issued.toNat + issuer.settings.lifetime.toNat ∧
      (∀ now : UInt64, verified.isExpired now = true ↔
        request.issued.toNat + issuer.settings.lifetime.toNat ≤ now.toNat) ∧
      verified.toEnvelope = .ok { Envelope.build access target anchor with
        storagePath := if ((Envelope.build access target anchor).get? .xurl).isSome then none
          else (Envelope.build access target anchor).storagePath } := by
  have hcanonical := Envelope.isCanonical_build access target anchor
  obtain ⟨expires, signature, hexpires, hsign, rfl⟩ := TicketIssuer.signed_eq_ok_iff.1 hticket
  have hend : expires.toNat = request.issued.toNat + issuer.settings.lifetime.toNat :=
    expiry?_eq_some_iff.1 hexpires
  have haccepts := accepts_withSignature hcanonical (hkeys _ _ _ hsign) hunmarked
  have hsaid := expires_verifiedTicket hcanonical issuer.settings.issuer request.issued expires
    signature
  refine ⟨_, _, signature, expires, KeyRing.verify_eq_ok_iff.2 ⟨_, _, haccepts⟩, rfl, hsign, ?_,
    rfl, keyOrder_verifiedTicket _ _ _ _ _, issuer_verifiedTicket hcanonical _ _ _ _, hsaid, hend,
    ?_, ?_⟩
  · exact message?_withSignature haccepts
  · intro now
    rw [VerifiedEnvelope.isExpired, hsaid, Option.any_some, decide_eq_true_eq,
      UInt64.le_iff_toNat_le, hend]
  · rw [toEnvelope_verifiedTicket hcanonical, Envelope.deliveredPath_build]

/-- A replica to try tickets on. -/
def sampleTarget : EnvelopeTarget where
  file := .register ⟨1⟩ 42 none "alice" "alice"
  replica := ⟨⟨1⟩, 1, "root://disk.example:1094//data/file"⟩
  element := .basic 1 "ALICE::EXAMPLE::DISK" "root://disk.example:1094" "/data"
  path := none

/-- The envelope of that replica. -/
def sampleEnvelope : Envelope :=
  .build .read sampleTarget none

theorem obtainable_sampleEnvelope : sampleEnvelope.Obtainable :=
  .build .read sampleTarget none

theorem deliveredPath_sample : sampleEnvelope.deliveredPath = sampleEnvelope.storagePath := by
  have hxurl : ¬(sampleEnvelope.get? .xurl).isSome = true := by decide
  rw [sampleEnvelope, Envelope.deliveredPath_build, ← sampleEnvelope, if_neg hxurl]

/-- A service and storage elements with one pair of keys. -/
def mersenneRing : KeyRing :=
  ⟨mersennePair, mersennePair.publicKey, some mersennePair⟩

/-- A service with these keys. -/
def sampleIssuer : TicketIssuer :=
  ⟨mersenneRing, .standard⟩

theorem signsFor_mersenneRing : mersenneRing.signing.SignsFor mersenneRing.signingPublic := by
  rw [KeyRing.signingPublic, mersenneRing]
  exact isGenuine_mersennePair.signsFor

theorem isUnmarked_sampleText :
    IsUnmarked (signedText sampleEnvelope sampleIssuer.settings.issuer 0 86400) := by
  refine isUnmarked_signedText_iff.2 ?_
  decide +kernel

theorem size_sampleIssuer : 78 ≤ sampleIssuer.keys.signing.publicKey.size := by
  rw [sampleIssuer, mersenneRing]
  show 78 ≤ mersennePair.publicKey.size
  rw [size_mersennePair]
  decide

/-- What the check gives for a ticket of the sample envelope. -/
def sampleVerified (signature : List UInt8) : VerifiedEnvelope :=
  verifiedTicket sampleEnvelope sampleIssuer.settings.issuer 0 86400 signature

/-- There is a signed ticket of the sample envelope, and it is accepted. -/
theorem exists_verify_sample : ∃ sealed signature,
    mersenneRing.verify sealed true = .ok (sampleVerified signature) ∧
      (sampleVerified signature).message? true = some (bytesOfChars
        (signedText sampleEnvelope sampleIssuer.settings.issuer 0 86400)) := by
  obtain ⟨signature, hsign⟩ := RsaPrivateKey.exists_signature size_sampleIssuer .sha384
    (bytesOfChars (signedText sampleEnvelope sampleIssuer.settings.issuer 0 86400))
  have haccepts := accepts_withSignature obtainable_sampleEnvelope.isCanonical
    (signsFor_mersenneRing _ _ _ hsign) (isUnmarked_withSignature_iff.2 isUnmarked_sampleText)
  exact ⟨_, signature, KeyRing.verify_eq_ok_iff.2 ⟨_, _, haccepts⟩, message?_withSignature haccepts⟩

theorem verify_signed_build_sample :
    ∃ ticket verified, sampleIssuer.signed ⟨0, "alice"⟩ sampleEnvelope = .ok ticket ∧
      mersenneRing.verify ticket.text true = .ok verified ∧ verified.expires = some 86400 := by
  obtain ⟨ticket, hticket⟩ : ∃ ticket, sampleIssuer.signed ⟨0, "alice"⟩ sampleEnvelope =
      .ok ticket :=
    TicketIssuer.exists_signed size_sampleIssuer (by decide) sampleEnvelope
  obtain ⟨expires, signature, hexpires, -, rfl⟩ := TicketIssuer.signed_eq_ok_iff.1 hticket
  cases hexpires
  have hkeys : sampleIssuer.keys.signing.SignsFor mersenneRing.signingPublic :=
    signsFor_mersenneRing
  obtain ⟨verified, _, _, expires, hverify, -, -, -, -, -, -, hsaid, hend, -, -⟩ :=
    verify_signed_build hkeys hticket
      (isUnmarked_withSignature_iff.2 isUnmarked_sampleText)
  have hday : expires = 86400 := UInt64.toNat_inj.1 hend
  exact ⟨_, verified, hticket, hverify, hday ▸ hsaid⟩

end GridAccess
