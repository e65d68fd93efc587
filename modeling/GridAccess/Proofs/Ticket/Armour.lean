import GridAccess.Proofs.Crypto.Hybrid
import GridAccess.Proofs.Text.Base64
import GridAccess.Proofs.Text.Occurrence
import GridAccess.Ticket.Verify

/-!
# Reading encrypted tickets

The lines around the blocks of an encrypted ticket hold hyphens, which base64 does not, and no line
break. So they are found where they were put.

Inside of the encryption one line divides the text that is signed from its signature. The check
takes the first such line, so it is found where it was put only if the text does not hold it as
well. Otherwise the check takes the rest of the text for a part of the signature, and refuses it.

## Main definitions

- `signatureLine` — what divides an envelope from its signature
- `rewrapped` — a text with its signature, as in an encrypted ticket
- `readEnvelope` — the envelope in a text

## Main statements

- `blockBytes_trim` — the bytes of a block are read back
- `decryptText_armour` — the text that was encrypted is read from the ticket
- `splitSigned_rewrapped`, `splitSigned_rewrapped_of_isInfix` — where the signed text ends for the
  check
- `unseal_eq_of_decryptText` — what the check gives for a text with a right signature
-/

namespace GridAccess

open Crypto Text

/-- The lines around blocks. -/
def markerLines : List (List Char) :=
  [signatureBegin, signatureEnd, cipherBegin, cipherEnd, bodyBegin, bodyEnd]

/-- The lines around blocks hold hyphens and no line break. -/
theorem markerLines_plain : ∀ line ∈ markerLines, line ≠ [] ∧ '\n' ∉ line ∧ '-' ∈ line := by
  decide

theorem squeeze_block (bytes : List UInt8) :
    squeeze ('\n' :: Base64.encodePadded bytes ++ ['\n']) = Base64.encodePadded bytes := by
  have hkept : squeeze (Base64.encodePadded bytes) = Base64.encodePadded bytes := by
    rw [squeeze, List.filter_eq_self]
    intro c hc
    rw [Base64.isBlank_of_mem_encodePadded hc]
    rfl
  have hbreak : squeeze ['\n'] = [] := by decide
  show squeeze (['\n'] ++ Base64.encodePadded bytes ++ ['\n']) = _
  rw [squeeze_append, squeeze_append, hkept, hbreak, List.nil_append, List.append_nil]

theorem blockBytes_trim (bytes : List UInt8) :
    blockBytes (trim ('\n' :: Base64.encodePadded bytes ++ ['\n'])) = .ok bytes := by
  rw [blockBytes, squeeze_trim, squeeze_block, Base64.decodePadded?_encodePadded]

theorem not_isInfix_block {line : List Char} (h : line ∈ markerLines) (bytes : List UInt8) :
    ¬line <:+: '\n' :: Base64.encodePadded bytes := by
  obtain ⟨-, -, hhyphen⟩ := markerLines_plain line h
  intro hoccurs
  rcases List.mem_cons.1 (hoccurs.subset hhyphen) with hbreak | hmem
  · cases hbreak
  · exact (Base64.ne_of_mem_encodePadded hmem).2.2.1 rfl

/-- A block is found behind its first line. -/
theorem armouredBlock_of_cut {first last text before after : List Char} {bytes : List UInt8}
    (hlast : last ∈ markerLines)
    (h : cut first text =
      some (before, '\n' :: Base64.encodePadded bytes ++ '\n' :: last ++ after)) :
    armouredBlock first last text = .ok (trim ('\n' :: Base64.encodePadded bytes ++ ['\n'])) := by
  obtain ⟨hne, hbreak, -⟩ := markerLines_plain last hlast
  have hcut := cut_append_cons hne hbreak (not_isInfix_block hlast bytes) after
  rw [armouredBlock, h]
  simp only [hcut]

/-- The text that was encrypted is read from the ticket. -/
theorem decryptText_armour {keys : KeyRing} {key : RsaPrivateKey} {ciphertext : HybridCiphertext}
    {text : List Char} (hkey : keys.elementPrivate? = some key)
    (hdecrypt : key.decrypt ciphertext = .ok (bytesOfChars text)) :
    keys.decryptText (String.ofList (armour ciphertext)) = .ok text := by
  have hcipher : armouredBlock cipherBegin cipherEnd (armour ciphertext) =
      .ok (trim ('\n' :: Base64.encodePadded ciphertext.wrappedKey ++ ['\n'])) := by
    have hcut := cut_mark_append (markerLines_plain cipherBegin (by decide)).1
      ('\n' :: Base64.encodePadded ciphertext.wrappedKey ++ '\n' :: cipherEnd ++
        ('\n' :: armourBlock bodyBegin bodyEnd ciphertext.body))
    apply armouredBlock_of_cut (by decide : cipherEnd ∈ markerLines)
    rw [← hcut]
    simp [armour, armourBlock]
  have hbody : armouredBlock bodyBegin bodyEnd (armour ciphertext) =
      .ok (trim ('\n' :: Base64.encodePadded ciphertext.body ++ ['\n'])) := by
    obtain ⟨hne, hbreak, -⟩ := markerLines_plain bodyBegin (by decide)
    -- The first block and its lines stand in front, and none of them holds the line looked for.
    have hbefore : ¬bodyBegin <:+:
        cipherBegin ++
          '\n' :: (Base64.encodePadded ciphertext.wrappedKey ++ '\n' :: cipherEnd) := by
      have hothers : ¬bodyBegin <:+: cipherBegin ∧ ¬bodyBegin <:+: cipherEnd := by decide
      have hblock : ¬bodyBegin <:+: Base64.encodePadded ciphertext.wrappedKey := by
        intro hoccurs
        apply not_isInfix_block (by decide : bodyBegin ∈ markerLines) ciphertext.wrappedKey
        exact hoccurs.trans (List.suffix_cons _ _).isInfix
      rw [isInfix_append_cons_iff hbreak, isInfix_append_cons_iff hbreak]
      simp only [hothers, hblock, or_self, not_false_eq_true]
    have hcut := cut_append_cons hne hbreak hbefore
      ('\n' :: Base64.encodePadded ciphertext.body ++ '\n' :: bodyEnd ++ ['\n'])
    apply armouredBlock_of_cut (by decide : bodyEnd ∈ markerLines)
    rw [← hcut]
    simp [armour, armourBlock]
  have hprivate : keys.elementPrivate = .ok key := by
    rw [KeyRing.elementPrivate, hkey]
  rw [KeyRing.decryptText, String.toList_ofList, hcipher, hbody, hprivate]
  simp only [bind, Except.bind, mapError_ok, blockBytes_trim, hdecrypt, bytesOfChars,
    Utf8.decode?_encode, String.toList_ofList]
  rfl

/-! ## The signature inside -/

/-- The line that divides an envelope from its signature. -/
def signatureLine : List Char :=
  '\n' :: signatureBegin ++ ['\n']

/-- A text with its signature behind it, as it stands inside of an encrypted ticket. -/
def rewrapped (text : List Char) (signature : List UInt8) : List Char :=
  text ++ '\n' :: signatureBegin ++ '\n' :: Base64.encodePadded signature ++ '\n' :: signatureEnd

variable {text back : List Char} {signature : List UInt8}

theorem rewrapped_append_eq (text back : List Char) (signature : List UInt8) :
    rewrapped text signature ++ back = text ++ signatureLine ++
      (Base64.encodePadded signature ++ ['\n'] ++ signatureEnd ++ back) := by
  simp [rewrapped, signatureLine]

/-- The last line is taken off, whatever white space follows it. -/
theorem stripEnd?_signatureEnd (hback : ∀ c ∈ back, isBlank c = true) (block : List Char) :
    stripEnd? signatureEnd (trimEnd (block ++ signatureEnd ++ back)) = some block := by
  have hlast : ∀ c ∈ (block ++ signatureEnd).getLast?, isBlank c = false := by
    have hend : signatureEnd.getLast? = some '-' := by decide
    rw [List.getLast?_append, hend]
    intro c hc
    cases hc
    decide
  rw [trimEnd_append hback, trimEnd_eq_self hlast, stripEnd?_eq_some_iff]

/-- A text is divided from its signature if the line of the signature does not occur in it, not even
together with the front of the line itself. -/
theorem splitSigned_rewrapped (hback : ∀ c ∈ back, isBlank c = true)
    (h : ¬signatureLine <:+: text ++ signatureLine.dropLast) :
    splitSigned (rewrapped text signature ++ back) = .ok (text, signature) := by
  have hcut := cut_append_of_not_isInfix (by decide : signatureLine ≠ []) h
    (Base64.encodePadded signature ++ ['\n'] ++ signatureEnd ++ back)
  have hbytes : blockBytes (Base64.encodePadded signature ++ ['\n']) = .ok signature := by
    have hblock := blockBytes_trim signature
    rw [blockBytes, squeeze_trim] at hblock
    exact hblock
  rw [splitSigned, ← signatureLine, rewrapped_append_eq, hcut]
  simp only [stripEnd?_signatureEnd hback, hbytes]

/-- A text that holds the line of the signature is divided there, and what follows is no
signature. -/
theorem splitSigned_rewrapped_of_isInfix (hback : ∀ c ∈ back, isBlank c = true)
    (h : signatureLine <:+: text) :
    splitSigned (rewrapped text signature ++ back) = .error .invalidEncoding := by
  obtain ⟨⟨before, after⟩, hcut⟩ := Option.isSome_iff_exists.1 (cut_isSome_iff_isInfix.2 h)
  have hlonger := cut_append_of_some hcut
    (signatureLine ++ (Base64.encodePadded signature ++ ['\n'] ++ signatureEnd ++ back))
  let block := after ++ signatureLine ++ (Base64.encodePadded signature ++ ['\n'])
  -- The line that was put behind the text is part of the block now, and its hyphens are no base64.
  have hrest : after ++
      (signatureLine ++ (Base64.encodePadded signature ++ ['\n'] ++ signatureEnd ++ back)) =
      block ++ signatureEnd ++ back := by
    simp [block]
  have hbytes : blockBytes block = .error .invalidEncoding := by
    have hhyphen : '-' ∈ squeeze block := by
      have hline : '-' ∈ squeeze signatureLine := by decide
      rw [squeeze_append, squeeze_append]
      exact List.mem_append_left _ (List.mem_append_right _ hline)
    rw [blockBytes]
    cases hdecoded : Base64.decodePadded? (squeeze block) with
    | none => rfl
    | some bytes =>
      rcases Base64.mem_of_decodePadded? hdecoded '-' hhyphen with hequals | hvalue
      · cases hequals
      · exact absurd hvalue (by decide)
  rw [hrest] at hlonger
  rw [splitSigned, ← signatureLine, rewrapped_append_eq, List.append_assoc, hlonger]
  simp only [stripEnd?_signatureEnd hback, hbytes]

/-- The envelope in a text of either form. -/
def readEnvelope (text : List Char) : Except EnvelopeError Envelope :=
  ReceivedEnvelope.parse (String.ofList text) >>= Envelope.ofReceived

/-- What the check of an encrypted ticket gives for a text with a right signature, if the line of
the signature does not begin in the text and end behind it. -/
theorem unseal_eq_of_decryptText {keys : KeyRing} {sealed : String}
    (hback : ∀ c ∈ back, isBlank c = true)
    (hends : signatureLine <:+: text ++ signatureLine.dropLast → signatureLine <:+: text)
    (hverify : keys.signingPublic.verify .sha384 (bytesOfChars text) signature = .ok ())
    (hcontent : keys.decryptText sealed = .ok (rewrapped text signature ++ back)) :
    keys.unseal sealed =
      if signatureLine <:+: text then .error .invalidEncoding
      else (readEnvelope text).mapError .envelope := by
  rw [KeyRing.unseal, hcontent]
  split
  · next hline =>
    simp only [bind, Except.bind, splitSigned_rewrapped_of_isInfix hback hline]
  · next hline =>
    have hsplit : splitSigned (rewrapped text signature ++ back) = .ok (text, signature) :=
      splitSigned_rewrapped hback fun hoccurs => hline (hends hoccurs)
    simp only [bind, Except.bind, hsplit, hverify, mapError_ok, readEnvelope]
    cases ReceivedEnvelope.parse (String.ofList text) with
    | error e => rfl
    | ok received => rfl

end GridAccess
