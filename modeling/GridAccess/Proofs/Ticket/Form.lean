import GridAccess.Proofs.Ticket.RoundTrip

/-!
# Telling written envelopes apart

The form of a text is told from marks, and these are looked for in the whole text. Escapes leave the
characters of marks as they are, so an envelope or a ticket is taken for a line exactly if no value
holds a mark. Otherwise the line is taken for a document: it is not read back, and the signed ticket
is refused.

## Main definitions

- `Envelope.HasPlainValues` — an envelope whose values hold no marks

## Main statements

- `Envelope.isUnmarked_delimited_iff`, `isUnmarked_signedText_iff_hasPlainValues` — the lines that
  are unmarked
- `Envelope.parse_delimited` — such a line is read back
- `written_form_iff` — which envelopes and tickets are taken for what they are
-/

namespace GridAccess

open Crypto Text

theorem isUnmarked_signedKeyList (envelope : Envelope) :
    IsUnmarked (signedKeyList envelope).toList := by
  rw [signedKeyList_eq]
  apply isUnmarked_intercalate
  intro name hname
  exact isUnmarked_of_mem_ticketNames (mem_ticketNames_of_mem_names hname)

namespace Envelope

variable {envelope : Envelope}

/-- No value holds a mark of the markup form. -/
def HasPlainValues (envelope : Envelope) : Prop :=
  ∀ pair ∈ envelope.pairs, IsUnmarked pair.2.toList

instance (envelope : Envelope) : Decidable envelope.HasPlainValues :=
  inferInstanceAs (Decidable (∀ pair ∈ envelope.pairs, IsUnmarked pair.2.toList))

/-! ## Envelopes as lines -/

/-- The list of keys holds no delimiter, no escape, no tag and no white space. -/
theorem plain_of_mem_keyList {c : Char} (h : c ∈ envelope.keyList.toList) :
    (c ≠ '=' ∧ c ≠ '&' ∧ c ≠ '%') ∧ c ≠ '<' ∧ isBlank c = false :=
  plain_of_mem_signedKeyList ((keyList_isPrefix_signedKeyList envelope).subset h)

/-- The pairs of an envelope as a line. -/
def linePairs (envelope : Envelope) : List (String × String) :=
  envelope.pairs ++ [(keyListName, envelope.keyList)]

theorem mem_ticketNames_of_mem_linePairs {pair : String × String} (h : pair ∈ envelope.linePairs) :
    pair.1 ∈ ticketNames := by
  rcases List.mem_append.1 h with h | h
  · obtain ⟨-, -, hname⟩ := mem_ticketNames_of_mem_pairs h
    exact hname
  · rw [List.mem_singleton.1 h]
    exact (by decide : keyListName ∈ ticketNames)

theorem IsCanonical.nodup_linePairs (h : envelope.IsCanonical) :
    (envelope.linePairs.map Prod.fst).Nodup := by
  rw [linePairs, List.map_append, List.nodup_append]
  refine ⟨h.nodup_names, List.nodup_singleton _, ?_⟩
  intro name hname other hother heq
  obtain ⟨pair, hpair, rfl⟩ := List.mem_map.1 hname
  obtain ⟨key, hkey, -⟩ := mem_ticketNames_of_mem_pairs hpair
  apply name_not_mem_issuerKeys key
  rw [← hkey, heq, List.mem_singleton.1 hother]
  exact List.mem_append_left _ List.mem_cons_self

/-- The line of an envelope is unmarked exactly if its values are. -/
theorem isUnmarked_delimited_iff : IsUnmarked envelope.delimited ↔ envelope.HasPlainValues := by
  have hlist : IsUnmarked envelope.keyList.toList :=
    (isUnmarked_signedKeyList envelope).of_isInfix
      (keyList_isPrefix_signedKeyList envelope).isInfix
  rw [delimited, ← linePairs,
    isUnmarked_write_iff fun pair hpair => mem_ticketNames_of_mem_linePairs hpair]
  simp only [isUnmarked_escape_iff, linePairs, List.forall_mem_append, List.forall_mem_singleton]
  exact and_iff_left hlist

theorem isTrimmed_delimited (envelope : Envelope) : IsTrimmed envelope.delimited := by
  rw [delimited, write_eq_rawLine_map_ofPair, List.map_map]
  refine (Delimited.isTrimmed_rawLine_iff (by simp) ?_).2 ⟨?_, ?_⟩
  · intro written hwritten
    obtain ⟨pair, hpair, rfl⟩ := List.mem_map.1 hwritten
    exact (ticketNames_plain pair.1 (mem_ticketNames_of_mem_linePairs hpair)).1
  · intro written hwritten
    obtain ⟨pair, hpair, rfl⟩ := List.mem_map.1 (List.mem_of_mem_head? hwritten)
    exact (ticketNames_plain pair.1 (mem_ticketNames_of_mem_linePairs hpair)).2.2
  · intro written hwritten c hc
    rw [List.map_append, List.map_singleton, List.getLast?_concat, Option.mem_some_iff] at hwritten
    have hescape : Percent.escape envelope.keyList.toList = envelope.keyList.toList :=
      Percent.escape_eq_self fun _ hc => (plain_of_mem_keyList hc).1
    rw [← hwritten] at hc
    have hmem : c ∈ envelope.keyList.toList := by
      apply List.mem_of_mem_getLast?
      simpa [EnvelopeField.ofPair, EnvelopeField.written, hescape] using hc
    exact (plain_of_mem_keyList hmem).2.2

/-- An unmarked line is read back as the pairs of the envelope. -/
theorem parse_delimited (h : envelope.IsCanonical) (hplain : envelope.HasPlainValues) :
    ReceivedEnvelope.parse (String.ofList envelope.delimited) =
      .ok ⟨.delimited, envelope.linePairs.map EnvelopeField.ofPair⟩ := by
  rw [ReceivedEnvelope.parse_eq_ok_delimited_iff, String.toList_ofList,
    trim_eq_self envelope.isTrimmed_delimited]
  refine ⟨isUnmarked_delimited_iff.2 hplain, ?_, write_eq_rawLine_map_ofPair _⟩
  apply isLine_map_ofPair (by simp [linePairs]) _ h.nodup_linePairs
  intro pair hpair
  exact mem_ticketNames_of_mem_linePairs hpair

/-- The pairs of a line describe the envelope, up to the path of the replica. -/
theorem ofReceived_linePairs (h : envelope.IsCanonical) :
    ofReceived ⟨.delimited, envelope.linePairs.map EnvelopeField.ofPair⟩ =
      .ok { envelope with storagePath := envelope.deliveredPath } := by
  rw [linePairs, List.map_append]
  apply ofReceived_pairs h
  intro field hfield
  rw [List.map_singleton, List.mem_singleton] at hfield
  rw [hfield]
  refine ⟨(by decide : keyListName ≠ "pfn"), ?_⟩
  intro key hkey
  exact name_not_mem_issuerKeys key (hkey ▸ List.mem_append_left _ List.mem_cons_self)

/-- An envelope is taken for a line and read back from it exactly if its values are unmarked. -/
theorem exists_parse_delimited_iff (h : envelope.IsCanonical) :
    (∃ received, ReceivedEnvelope.parse (String.ofList envelope.delimited) = .ok received ∧
      received.format = .delimited ∧
      ofReceived received = .ok { envelope with storagePath := envelope.deliveredPath }) ↔
      envelope.HasPlainValues := by
  constructor
  · rintro ⟨⟨format, fields⟩, hparse, rfl, -⟩
    have hunmarked := (ReceivedEnvelope.parse_eq_ok_delimited_iff.1 hparse).1
    rw [String.toList_ofList] at hunmarked
    exact isUnmarked_delimited_iff.1 hunmarked
  · intro hplain
    exact ⟨_, parse_delimited h hplain, rfl, ofReceived_linePairs h⟩

end Envelope

/-! ## Tickets as lines -/

variable {envelope : Envelope} {issued expires : UInt64}

theorem isUnmarked_timeText (time : UInt64) : IsUnmarked (timeText time).toList := by
  have hdigit : ∀ c ∈ (timeText time).toList, c.isDigit = true := by
    rw [timeText, String.toList_ofList]
    exact List.all_eq_true.1 (Decimal.all_isDigit_digits time.toNat)
  apply isUnmarked_of_not_mem
  · intro hspace
    cases hdigit _ hspace
  · intro htag
    cases hdigit _ htag

/-- The covered text is unmarked exactly if the values of the envelope and the issuer are. -/
theorem isUnmarked_signedText_iff_hasPlainValues {issuer : String} :
    IsUnmarked (signedText envelope issuer issued expires) ↔
      envelope.HasPlainValues ∧ IsUnmarked issuer.toList := by
  rw [isUnmarked_signedText_iff]
  simp only [isUnmarked_escape_iff, signedPairs, List.forall_mem_append, List.forall_mem_cons,
    isUnmarked_signedKeyList, isUnmarked_timeText, List.not_mem_nil, false_imp_iff, implies_true,
    true_and, and_true]
  rfl

/-- A ticket is taken for what it is exactly if its covered text is unmarked. -/
theorem detect_withSignature_eq_delimited_iff {issuer : String} {signature : List UInt8} :
    EnvelopeFormat.detect
        (withSignature (signedText envelope issuer issued expires) signature).toList =
      .ok .delimited ↔ IsUnmarked (signedText envelope issuer issued expires) := by
  rw [← isUnmarked_withSignature_iff, toList_withSignature]
  exact EnvelopeFormat.detect_rawLine_eq_delimited_iff (by simp [ticketFields])

/-- A ticket with a right signature is accepted exactly if its covered text is unmarked. -/
theorem exists_verify_withSignature_iff {keys : KeyRing} {issuer : String} {signature : List UInt8}
    (h : envelope.IsCanonical)
    (hverify : keys.signingPublic.verify .sha384
      (bytesOfChars (signedText envelope issuer issued expires)) signature = .ok ()) :
    (∃ verified, keys.verify (withSignature (signedText envelope issuer issued expires) signature)
      true = .ok verified) ↔ IsUnmarked (signedText envelope issuer issued expires) := by
  rw [← isUnmarked_withSignature_iff]
  constructor
  · rintro ⟨verified, hverified⟩
    obtain ⟨pairs, keyList, haccepts⟩ := KeyRing.verify_eq_ok_iff.1 hverified
    exact haccepts.isLine.1
  · intro hunmarked
    exact ⟨_, KeyRing.verify_eq_ok_iff.2 ⟨_, _, accepts_withSignature h hverify hunmarked⟩⟩

/-- An envelope is taken for a line, and read back from it, exactly if no value holds a mark of the
markup form. Its signed ticket is taken for a line, and accepted, exactly if the name of the issuer
does not hold one either. Otherwise they are taken for documents. -/
theorem written_form_iff {issuer : TicketIssuer} {request : TicketRequest} {keys : KeyRing}
    {ticket : Ticket} (henvelope : envelope.Obtainable)
    (hkeys : issuer.keys.signing.SignsFor keys.signingPublic)
    (hticket : issuer.signed request envelope = .ok ticket) :
    (EnvelopeFormat.detect envelope.delimited = .ok .delimited ↔ envelope.HasPlainValues) ∧
    ((∃ received, ReceivedEnvelope.parse (String.ofList envelope.delimited) = .ok received ∧
      received.format = .delimited ∧ Envelope.ofReceived received =
        .ok { envelope with storagePath := envelope.deliveredPath }) ↔ envelope.HasPlainValues) ∧
    (EnvelopeFormat.detect ticket.text.toList = .ok .delimited ↔
      envelope.HasPlainValues ∧ IsUnmarked issuer.settings.issuer.toList) ∧
    ((∃ verified, keys.verify ticket.text true = .ok verified) ↔
      envelope.HasPlainValues ∧ IsUnmarked issuer.settings.issuer.toList) ∧
    (¬envelope.HasPlainValues → EnvelopeFormat.detect envelope.delimited = .ok .markup ∧
      EnvelopeFormat.detect ticket.text.toList = .ok .markup) := by
  have hcanonical := henvelope.isCanonical
  obtain ⟨expires, signature, -, hsign, rfl⟩ := TicketIssuer.signed_eq_ok_iff.1 hticket
  have hline : EnvelopeFormat.detect envelope.delimited = .ok .delimited ↔
      envelope.HasPlainValues := by
    rw [← Envelope.isUnmarked_delimited_iff, Envelope.delimited, write_eq_rawLine_map_ofPair]
    exact EnvelopeFormat.detect_rawLine_eq_delimited_iff (by simp)
  refine ⟨hline, Envelope.exists_parse_delimited_iff hcanonical, ?_, ?_, ?_⟩
  · rw [detect_withSignature_eq_delimited_iff, isUnmarked_signedText_iff_hasPlainValues]
  · rw [exists_verify_withSignature_iff hcanonical (hkeys _ _ _ hsign),
      isUnmarked_signedText_iff_hasPlainValues]
  · intro hmarked
    rw [EnvelopeFormat.detect_eq_markup_iff, EnvelopeFormat.detect_eq_markup_iff,
      isUnmarked_withSignature_iff, isUnmarked_signedText_iff_hasPlainValues,
      Envelope.isUnmarked_delimited_iff]
    exact ⟨hmarked, fun h => hmarked h.1⟩

theorem written_form_iff_sample : ∃ ticket verified,
    sampleIssuer.signed ⟨0, "alice"⟩ sampleEnvelope = .ok ticket ∧
    EnvelopeFormat.detect sampleEnvelope.delimited = .ok .delimited ∧
    EnvelopeFormat.detect ticket.text.toList = .ok .delimited ∧
    mersenneRing.verify ticket.text true = .ok verified := by
  obtain ⟨ticket, hticket⟩ : ∃ ticket, sampleIssuer.signed ⟨0, "alice"⟩ sampleEnvelope =
      .ok ticket :=
    TicketIssuer.exists_signed size_sampleIssuer (by decide) sampleEnvelope
  have hkeys : sampleIssuer.keys.signing.SignsFor mersenneRing.signingPublic :=
    signsFor_mersenneRing
  have hplain : sampleEnvelope.HasPlainValues ∧
      IsUnmarked sampleIssuer.settings.issuer.toList := by
    decide +kernel
  obtain ⟨hline, -, hform, hverify, -⟩ := written_form_iff obtainable_sampleEnvelope hkeys hticket
  obtain ⟨verified, hverified⟩ := hverify.2 hplain
  exact ⟨ticket, verified, hticket, hline.2 hplain.1, hform.2 hplain, hverified⟩

/-- A name with the first tag of documents is a logical path, but an envelope with it is taken for a
document, and its signed ticket is refused. -/
theorem marked_name_refused : ∃ path ticket, LogicalPath.parse "/alice/<authz>" = .ok path ∧
    EnvelopeFormat.detect
      (Envelope.build .read { sampleTarget with path := some path } none).delimited =
        .ok .markup ∧
    sampleIssuer.signed ⟨0, "alice"⟩
      (.build .read { sampleTarget with path := some path } none) = .ok ticket ∧
    EnvelopeFormat.detect ticket.text.toList = .ok .markup ∧
    ∀ verified, mersenneRing.verify ticket.text true ≠ .ok verified := by
  let path : LogicalPath := ⟨["alice".toList, "<authz>".toList], by decide⟩
  let envelope := Envelope.build .read { sampleTarget with path := some path } none
  have hpath : LogicalPath.parse "/alice/<authz>" = .ok path := by decide +kernel
  have hmarked : ¬envelope.HasPlainValues := by decide +kernel
  obtain ⟨ticket, hticket⟩ : ∃ ticket, sampleIssuer.signed ⟨0, "alice"⟩ envelope = .ok ticket :=
    TicketIssuer.exists_signed size_sampleIssuer (by decide) envelope
  obtain ⟨expires, signature, -, hsign, rfl⟩ := TicketIssuer.signed_eq_ok_iff.1 hticket
  have htext : ¬IsUnmarked (signedText envelope sampleIssuer.settings.issuer 0 expires) := by
    rw [isUnmarked_signedText_iff_hasPlainValues]
    exact fun h => hmarked h.1
  refine ⟨path, _, hpath, ?_, hticket, ?_, ?_⟩
  · rwa [EnvelopeFormat.detect_eq_markup_iff, Envelope.isUnmarked_delimited_iff]
  · rwa [EnvelopeFormat.detect_eq_markup_iff, isUnmarked_withSignature_iff]
  · intro verified hverified
    have hexact := exists_verify_withSignature_iff
      (Envelope.isCanonical_build .read { sampleTarget with path := some path } none)
      (signsFor_mersenneRing _ _ _ hsign)
    exact htext (hexact.1 ⟨verified, hverified⟩)

end GridAccess
