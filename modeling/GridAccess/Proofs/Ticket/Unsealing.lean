import GridAccess.Proofs.Envelope.Document
import GridAccess.Proofs.Ticket.Armour
import GridAccess.Proofs.Ticket.RoundTrip

/-!
# Encrypted tickets are read back

The holder of the private key reads the envelope of an encrypted ticket back as it was, unless one
of its texts holds the line that divides the document from its signature. Entities leave line breaks
and hyphens as they are, so nothing keeps the line out of a value. The check then takes the document
to end there, and what follows for a signature.

## Main definitions

- `Envelope.texts` — the texts in an envelope that are not the same in all of them

## Main statements

- `isInfix_markup_append_iff` — the line occurs in a document exactly if it occurs in a text
- `unseal_encrypted_iff` — which encrypted tickets are read back
-/

namespace GridAccess

open Crypto Text

/-! ## The line in documents -/

namespace MarkupEnvelope

variable {element : String × String} {written : List (String × String)}

/-- The line of the signature does not begin in an element outside of its value. -/
theorem signatureLine_isInfix_elementLine_append_iff (hname : '\n' ∉ element.1.toList)
    (rest : List Char) :
    signatureLine <:+: elementLine element ++ rest ↔
      signatureLine <:+: element.2.toList ∨ signatureLine <:+: rest := by
  have hopening : ¬signatureLine <:+: element.1.toList := by
    intro hoccurs
    exact hname (hoccurs.subset List.mem_cons_self)
  have hclosing : ¬signatureLine <:+: '/' :: element.1.toList := by
    intro hoccurs
    rcases List.mem_cons.1 (hoccurs.subset (List.mem_cons_self : '\n' ∈ signatureLine)) with h | h
    · cases h
    · exact hname h
  have hindent : ¬signatureLine <:+: '\n' :: "    ".toList := by decide
  have hapart : Markup.involved ∩ signatureLine = [] := by decide
  have hvalue := Markup.isInfix_escape_iff (by decide : signatureLine ≠ [])
    (List.inter_eq_nil_iff_disjoint.1 hapart) element.2.toList
  have htext : elementLine element ++ rest =
      '\n' :: "    ".toList ++ '<' :: (element.1.toList ++ '>' ::
        (Markup.escape element.2.toList ++ '<' :: ('/' :: element.1.toList ++ '>' :: rest))) := by
    simp [elementLine, elementText, openingTag, closingTag]
  -- The line holds no angle brackets, so it lies between two of them.
  have hopen : '<' ∉ signatureLine := by decide
  have hclose : '>' ∉ signatureLine := by decide
  rw [htext, isInfix_append_cons_iff hopen, isInfix_append_cons_iff hclose,
    isInfix_append_cons_iff hopen, isInfix_append_cons_iff hclose, hvalue]
  simp only [hopening, hclosing, hindent, false_or]

theorem signatureLine_isInfix_elementLines_append_iff
    (hnames : ∀ element ∈ written, '\n' ∉ element.1.toList) (rest : List Char) :
    signatureLine <:+: written.flatMap elementLine ++ rest ↔
      (∃ element ∈ written, signatureLine <:+: element.2.toList) ∨ signatureLine <:+: rest := by
  induction written with
  | nil => simp
  | cons element written ih =>
    have hrest := ih fun other hother => hnames other (List.mem_cons_of_mem _ hother)
    rw [List.flatMap_cons, List.append_assoc,
      signatureLine_isInfix_elementLine_append_iff (hnames element (by simp)), hrest]
    simp [or_assoc]

/-- The line of the signature occurs in a document exactly if it occurs in a value, whatever part of
the line follows. -/
theorem signatureLine_isInfix_write_append_iff
    (hnames : ∀ element ∈ written, '\n' ∉ element.1.toList) {back : List Char}
    (hback : ¬signatureLine <:+: '\n' :: endMark ++ '\n' :: back) :
    signatureLine <:+: write written ++ back ↔
      ∃ element ∈ written, signatureLine <:+: element.2.toList := by
  have htext : write written ++ back =
      beginMark ++ ['\n'] ++ '<' :: (outerName ++ '>' :: ("\n  ".toList ++ '<' ::
        (innerName ++ '>' :: (written.flatMap elementLine ++ ("\n  ".toList ++ '<' ::
          ('/' :: innerName ++ '>' :: (['\n'] ++ '<' ::
            ('/' :: outerName ++ '>' :: ('\n' :: endMark ++ '\n' :: back))))))))) := by
    simp [write_eq, lines, openingTag, closingTag]
  have hopen : '<' ∉ signatureLine := by decide
  have hclose : '>' ∉ signatureLine := by decide
  have hframe : ∀ part ∈ [beginMark ++ ['\n'], outerName, "\n  ".toList, innerName,
      '/' :: innerName, ['\n'], '/' :: outerName], ¬signatureLine <:+: part := by
    decide
  simp only [List.forall_mem_cons] at hframe
  rw [htext, isInfix_append_cons_iff hopen, isInfix_append_cons_iff hclose,
    isInfix_append_cons_iff hopen, isInfix_append_cons_iff hclose,
    signatureLine_isInfix_elementLines_append_iff hnames, isInfix_append_cons_iff hopen,
    isInfix_append_cons_iff hclose, isInfix_append_cons_iff hopen, isInfix_append_cons_iff hclose]
  simp only [hframe, hback, false_or, or_false]

end MarkupEnvelope

namespace Envelope

variable {envelope : Envelope}

/-- The texts in an envelope: its values and the path of the replica. -/
def texts (envelope : Envelope) : List String :=
  envelope.storagePath.toList ++ envelope.fields.map Prod.snd

theorem mem_texts_of_mem_elementsOf (h : envelope.IsCanonical) {keys : List EnvelopeKey}
    {element : String × String} (helement : element ∈ envelope.elementsOf keys) :
    element.2 ∈ envelope.texts := by
  obtain ⟨key, -, hvalue⟩ := List.mem_filterMap.1 helement
  obtain ⟨value, hget, rfl⟩ := Option.map_eq_some_iff.1 hvalue
  apply List.mem_append_right
  exact List.mem_map_of_mem (f := Prod.snd) (h.get?_eq_some_iff.1 hget)

/-- The elements of an envelope have its texts as values, apart from the access, which has a
spelling of its own. -/
theorem exists_mem_elements_iff (h : envelope.IsCanonical) {p : String → Prop}
    (haccess : ∀ kind : AccessKind, ¬p kind.name ∧ ¬p kind.elementText) :
    (∃ element ∈ envelope.elements, p element.2) ↔ ∃ text ∈ envelope.texts, p text := by
  constructor
  · rintro ⟨element, helement, hp⟩
    simp only [elements, List.mem_append, List.mem_cons] at helement
    rcases helement with ((rfl | hvalue) | hpath) | hvalue
    · exact absurd hp (haccess envelope.access).2
    · exact ⟨_, mem_texts_of_mem_elementsOf h hvalue, hp⟩
    · obtain ⟨path, hstored, rfl⟩ := Option.map_eq_some_iff.1 (Option.mem_toList.1 hpath)
      exact ⟨path, List.mem_append_left _ (Option.mem_toList.2 hstored), hp⟩
    · exact ⟨_, mem_texts_of_mem_elementsOf h hvalue, hp⟩
  · rintro ⟨text, htext, hp⟩
    rcases List.mem_append.1 htext with hpath | hfield
    · have hstored : envelope.storagePath = some text := Option.mem_toList.1 hpath
      refine ⟨("pfn", text), ?_, hp⟩
      simp [elements, hstored]
    · obtain ⟨⟨key, value⟩, hmem, rfl⟩ := List.mem_map.1 hfield
      have hget := h.get?_eq_some_iff.2 hmem
      by_cases hkey : key = .access
      · rw [hkey, h.access] at hget
        cases hget
        exact absurd hp (haccess envelope.access).1
      · rw [← lookup_elements envelope hkey] at hget
        obtain ⟨front, back, helements, -⟩ := List.lookup_eq_some_iff.1 hget
        refine ⟨(key.name, value), ?_, hp⟩
        rw [helements]
        simp

/-- The line of the signature occurs in a document exactly if it occurs in one of the texts,
whatever part of the line follows. -/
theorem isInfix_markup_append_iff (h : envelope.IsCanonical) {back : List Char}
    (hback : ¬signatureLine <:+: '\n' :: MarkupEnvelope.endMark ++ '\n' :: back) :
    signatureLine <:+: envelope.markup ++ back ↔
      ∃ text ∈ envelope.texts, signatureLine <:+: text.toList := by
  have hnames : ∀ element ∈ envelope.elements, '\n' ∉ element.1.toList := by
    have hall : ∀ name ∈ elementNames, '\n' ∉ name.toList := by decide
    intro element helement
    exact hall _ (envelope.elements_names_sublist.subset (List.mem_map_of_mem helement))
  rw [markup, MarkupEnvelope.signatureLine_isInfix_write_append_iff hnames hback]
  apply exists_mem_elements_iff h (p := fun text => signatureLine <:+: text.toList)
  intro kind
  cases kind <;> decide

/-- An obtainable envelope is the one that is read from its document. -/
theorem readEnvelope_markup (h : envelope.Obtainable) :
    readEnvelope envelope.markup = .ok envelope := by
  rw [readEnvelope, parse_markup]
  exact ofReceived_elements h

end Envelope

/-! ## Encrypted tickets -/

variable {issuer : TicketIssuer} {keys : KeyRing} {key : RsaPrivateKey}
  {random : HybridRandomness} {envelope : Envelope} {ticket : Ticket}

/-- An encrypted ticket holds the document of the envelope and its signature. -/
theorem TicketIssuer.encrypted_eq_ok_iff :
    issuer.encrypted random envelope = .ok ticket ↔
      ∃ signature ciphertext,
        issuer.keys.signing.sign .sha384 (bytesOfChars envelope.markup) = .ok signature ∧
        issuer.keys.element.encrypt random
          (bytesOfChars (rewrapped envelope.markup signature ++ ['\n'])) = .ok ciphertext ∧
        ticket = ⟨.encrypted, String.ofList (armour ciphertext), none⟩ := by
  have hcontent : ∀ signature, signedMarkup envelope.markup signature =
      rewrapped envelope.markup signature ++ ['\n'] := by
    intro signature
    simp [signedMarkup, armourBlock, rewrapped]
  rw [encrypted]
  constructor
  · intro h
    split at h
    · cases h
    next signature hsign =>
    simp only [hcontent] at h
    split at h
    · next ciphertext hencrypt =>
      cases h
      exact ⟨signature, ciphertext, hsign, hencrypt, rfl⟩
    · cases h
  · rintro ⟨signature, ciphertext, hsign, hencrypt, rfl⟩
    simp only [hsign, hcontent, hencrypt]

/-- What the check gives for an encrypted ticket. -/
theorem unseal_encrypted (henvelope : envelope.Obtainable)
    (hkeys : issuer.keys.signing.SignsFor keys.signingPublic)
    (hkey : keys.elementPrivate? = some key) (hopens : key.OpensFor issuer.keys.element)
    (hrandom : random.IsProper) (hticket : issuer.encrypted random envelope = .ok ticket) :
    keys.unseal ticket.text =
      if ∃ text ∈ envelope.texts, signatureLine <:+: text.toList then .error .invalidEncoding
      else .ok envelope := by
  obtain ⟨signature, ciphertext, hsign, hencrypt, rfl⟩ :=
    TicketIssuer.encrypted_eq_ok_iff.1 hticket
  have hcanonical := henvelope.isCanonical
  have hcontent := decryptText_armour hkey (hopens _ _ _ hrandom hencrypt)
  have hbreak : ∀ c ∈ ['\n'], isBlank c = true := List.all_eq_true.1 rfl
  have hline : signatureLine <:+: envelope.markup ++ [] ↔ _ :=
    Envelope.isInfix_markup_append_iff hcanonical (by decide)
  rw [List.append_nil] at hline
  -- The marker at the end of the document is no front of the line, so none ends behind it.
  have hends : signatureLine <:+: envelope.markup ++ signatureLine.dropLast →
      signatureLine <:+: envelope.markup := by
    rw [hline, Envelope.isInfix_markup_append_iff hcanonical (by decide)]
    exact id
  rw [unseal_eq_of_decryptText hbreak hends (hkeys _ _ _ hsign) hcontent,
    Envelope.readEnvelope_markup henvelope]
  simp only [hline, mapError_ok]

/-- The keys of the sample encrypt to the holder of the private key. -/
theorem opensFor_mersennePair : mersennePair.OpensFor sampleIssuer.keys.element :=
  isGenuine_mersennePair.opensFor

/-- There is an encrypted ticket of every envelope. -/
theorem exists_encrypted_sample (envelope : Envelope) :
    ∃ ticket, sampleIssuer.encrypted zeroRandomness envelope = .ok ticket := by
  obtain ⟨signature, hsign⟩ := RsaPrivateKey.exists_signature size_sampleIssuer .sha384
    (bytesOfChars envelope.markup)
  obtain ⟨ciphertext, hencrypt⟩ := exists_ciphertext_mersennePair
    (bytesOfChars (rewrapped envelope.markup signature ++ ['\n']))
  exact ⟨_, TicketIssuer.encrypted_eq_ok_iff.2 ⟨signature, ciphertext, hsign, hencrypt, rfl⟩⟩

/-- The envelope of an encrypted ticket is read back exactly if none of its texts holds the line
that divides the document from its signature. Otherwise the ticket is refused. -/
theorem unseal_encrypted_iff (henvelope : envelope.Obtainable)
    (hkeys : issuer.keys.signing.SignsFor keys.signingPublic)
    (hkey : keys.elementPrivate? = some key) (hopens : key.OpensFor issuer.keys.element)
    (hrandom : random.IsProper) (hticket : issuer.encrypted random envelope = .ok ticket) :
    (keys.unseal ticket.text = .ok envelope ↔
      ∀ text ∈ envelope.texts, ¬signatureLine <:+: text.toList) ∧
    ((∃ text ∈ envelope.texts, signatureLine <:+: text.toList) →
      keys.unseal ticket.text = .error .invalidEncoding) := by
  rw [unseal_encrypted henvelope hkeys hkey hopens hrandom hticket]
  refine ⟨?_, fun hline => if_pos hline⟩
  split
  · next hline => simpa using hline
  · next hline => simpa using hline

theorem unseal_encrypted_iff_sample :
    ∃ ticket, sampleIssuer.encrypted zeroRandomness sampleEnvelope = .ok ticket ∧
      mersenneRing.unseal ticket.text = .ok sampleEnvelope := by
  obtain ⟨ticket, hticket⟩ := exists_encrypted_sample sampleEnvelope
  have hkeys : sampleIssuer.keys.signing.SignsFor mersenneRing.signingPublic :=
    signsFor_mersenneRing
  have hkey : mersenneRing.elementPrivate? = some mersennePair := rfl
  have hexact := (unseal_encrypted_iff obtainable_sampleEnvelope hkeys hkey opensFor_mersennePair
    isProper_zeroRandomness hticket).1
  refine ⟨ticket, hticket, hexact.2 ?_⟩
  decide +kernel

/-- A name that holds the line is a logical path, and the encrypted ticket of a replica with this
name is refused. -/
theorem encrypted_ticket_refused : ∃ path ticket,
    LogicalPath.parse "/alice/a\n-----BEGIN SIGNATURE-----\nb" = .ok path ∧
    sampleIssuer.encrypted zeroRandomness
      (.build .read { sampleTarget with path := some path } none) = .ok ticket ∧
    mersenneRing.unseal ticket.text = .error .invalidEncoding := by
  let path : LogicalPath :=
    ⟨["alice".toList, "a\n-----BEGIN SIGNATURE-----\nb".toList], by decide⟩
  let envelope := Envelope.build .read { sampleTarget with path := some path } none
  obtain ⟨ticket, hticket⟩ := exists_encrypted_sample envelope
  have hpath : LogicalPath.parse "/alice/a\n-----BEGIN SIGNATURE-----\nb" = .ok path := by
    decide +kernel
  have hline : ∃ text ∈ envelope.texts, signatureLine <:+: text.toList := by
    decide +kernel
  have hkeys : sampleIssuer.keys.signing.SignsFor mersenneRing.signingPublic :=
    signsFor_mersenneRing
  have hkey : mersenneRing.elementPrivate? = some mersennePair := rfl
  refine ⟨path, ticket, hpath, hticket, ?_⟩
  rw [unseal_encrypted (.build _ _ _) hkeys hkey opensFor_mersennePair isProper_zeroRandomness
    hticket, if_pos hline]

end GridAccess
