import GridAccess.Proofs.Ticket.RoundTrip

/-!
# Tickets signed by storage elements

A storage element signs pairs, with their values escaped, and behind them the list of their keys. The
pairs, the list and the signature may then be written in any order: the check puts the signed text
together again in the order of the list.

Like every value of a line, the list is unescaped when it is read, though it is written as it is. So
the keys may hold percent signs only as far as the list can be read with them.

## Main definitions

- `IsSignable` — pairs that a storage element can sign
- `elementText` — the text that it signs
- `elementWritten` — the pairs of its ticket

## Main statements

- `IsSignable.accepts_elementWritten`, `IsSignable.verify_eq_error` — the check in any order
- `verify_elementSigned` — which tickets of storage elements are accepted, and what they say
-/

namespace GridAccess

open Crypto Text

variable {keys : KeyRing} {pairs written : List (String × String)} {signature : List UInt8}

/-! ## What is signed -/

/-- Pairs that a storage element can sign: their keys can be told apart in a list, and none is that of
the list or of the signature. -/
structure IsSignable (pairs : List (String × String)) : Prop where
  ne_nil : pairs ≠ []
  nodup : (pairs.map Prod.fst).Nodup
  key_ne_empty : ∀ pair ∈ pairs, pair.1 ≠ ""
  plain : ∀ pair ∈ pairs, ∀ c ∈ pair.1.toList, c ≠ '-' ∧ c ≠ '&' ∧ c ≠ '='
  unreserved : ∀ pair ∈ pairs, pair.1 ≠ Envelope.keyListName ∧ pair.1 ≠ signatureKey

instance (pairs : List (String × String)) : Decidable (IsSignable pairs) :=
  decidable_of_iff (pairs ≠ [] ∧ (pairs.map Prod.fst).Nodup ∧ ∀ pair ∈ pairs, pair.1 ≠ "" ∧
    (pair.1.toList.all fun c => c != '-' && c != '&' && c != '=') = true ∧
      pair.1 ≠ Envelope.keyListName ∧ pair.1 ≠ signatureKey) <| by
    constructor
    · rintro ⟨hne, hnodup, hpairs⟩
      refine ⟨hne, hnodup, fun pair hpair => (hpairs pair hpair).1, ?_,
        fun pair hpair => (hpairs pair hpair).2.2⟩
      intro pair hpair
      simpa [and_assoc] using (hpairs pair hpair).2.1
    · intro h
      refine ⟨h.ne_nil, h.nodup, ?_⟩
      intro pair hpair
      refine ⟨h.key_ne_empty pair hpair, ?_, h.unreserved pair hpair⟩
      simpa [and_assoc] using h.plain pair hpair

/-- The list of the keys of pairs. It does not name itself. -/
def elementKeyList (pairs : List (String × String)) : String :=
  "-".intercalate (pairs.map Prod.fst)

/-- The text that a storage element signs: the pairs, and the list of their keys as it is. -/
def elementText (pairs : List (String × String)) : List Char :=
  Delimited.write pairs ++ '&' :: Envelope.keyListName.toList ++ '=' :: (elementKeyList pairs).toList

/-- The pairs of a ticket of a storage element as they are written. -/
def elementWritten (pairs : List (String × String)) (signature : List UInt8) :
    List (String × String) :=
  pairs.map Delimited.escapedPair ++ [(Envelope.keyListName, elementKeyList pairs),
    (signatureKey, String.ofList (Base64.encodePadded signature))]

theorem keys_map_escapedPair (pairs : List (String × String)) :
    (pairs.map Delimited.escapedPair).map Prod.fst = pairs.map Prod.fst := by
  rw [List.map_map]
  rfl

/-- The signed text is the line of the pairs and of the list of keys. -/
theorem elementText_eq_rawLine (hne : pairs ≠ []) : elementText pairs = Delimited.rawLine
    (pairs.map Delimited.escapedPair ++ trailer false (elementKeyList pairs)) := by
  have hescaped : pairs.map Delimited.escapedPair ≠ [] := by simpa using hne
  rw [trailer, if_neg (by decide), Delimited.rawLine_append hescaped (List.cons_ne_nil _ _),
    ← Delimited.write_eq_rawLine, elementText]
  simp [Delimited.rawLine, Delimited.rawPair]

theorem IsSignable.listedKeys_elementKeyList (h : IsSignable pairs) :
    listedKeys (elementKeyList pairs) = pairs.map Prod.fst := by
  apply listedKeys_intercalate (by simpa using h.ne_nil)
  intro name hname hmem
  obtain ⟨pair, hpair, rfl⟩ := List.mem_map.1 hname
  exact (h.plain pair hpair '-' hmem).1 rfl

/-- The characters of the list are hyphens and those of the keys. -/
theorem mem_elementKeyList {c : Char} (hc : c ∈ (elementKeyList pairs).toList) :
    c = '-' ∨ ∃ pair ∈ pairs, c ∈ pair.1.toList := by
  rcases mem_toList_intercalate hc with hhyphen | ⟨name, hname, hin⟩
  · exact Or.inl hhyphen
  · obtain ⟨pair, hpair, rfl⟩ := List.mem_map.1 hname
    exact Or.inr ⟨pair, hpair, hin⟩

/-- A list without percent signs can be read. -/
theorem unescape?_elementKeyList (h : ∀ pair ∈ pairs, '%' ∉ pair.1.toList) :
    Percent.unescape? (elementKeyList pairs) = some (elementKeyList pairs) := by
  have hplain : '%' ∉ (elementKeyList pairs).toList := by
    intro hmem
    rcases mem_elementKeyList hmem with heq | ⟨pair, hpair, hin⟩
    · cases heq
    · exact h pair hpair hin
  have hread := Percent.unescape?_of_not_mem hplain
  rwa [String.ofList_toList] at hread

theorem mem_elementWritten {pair : String × String} :
    pair ∈ elementWritten pairs signature ↔
      (∃ signed ∈ pairs, pair = Delimited.escapedPair signed) ∨
      pair = (Envelope.keyListName, elementKeyList pairs) ∨
      pair = (signatureKey, String.ofList (Base64.encodePadded signature)) := by
  simp [elementWritten, eq_comm]

namespace IsSignable

theorem isPair (h : IsSignable pairs) {pair : String × String}
    (hpair : pair ∈ elementWritten pairs signature) : Delimited.IsPair pair := by
  rcases mem_elementWritten.1 hpair with ⟨signed, hsigned, rfl⟩ | rfl | rfl
  · refine ⟨h.key_ne_empty signed hsigned, ?_, ?_, ?_⟩
    · intro hequals
      exact (h.plain signed hsigned '=' hequals).2.2 rfl
    · intro hamp
      exact (h.plain signed hsigned '&' hamp).2.1 rfl
    · simpa [Delimited.escapedPair] using Percent.amp_not_mem_escape signed.2.toList
  · apply isPair_of_mem_ticketNames (by decide)
    intro hamp
    rcases mem_elementKeyList hamp with heq | ⟨signed, hsigned, hin⟩
    · cases heq
    · exact (h.plain signed hsigned '&' hin).2.1 rfl
  · apply isPair_of_mem_ticketNames (by decide)
    intro hamp
    rw [String.toList_ofList] at hamp
    exact (Base64.ne_of_mem_encodePadded hamp).1 rfl

theorem nodup_keys (h : IsSignable pairs) (signature : List UInt8) :
    ((elementWritten pairs signature).map Prod.fst).Nodup := by
  have hnames : (elementWritten pairs signature).map Prod.fst =
      pairs.map Prod.fst ++ [Envelope.keyListName, signatureKey] := by
    rw [elementWritten, List.map_append, keys_map_escapedPair]
    rfl
  have hreserved : [Envelope.keyListName, signatureKey].Nodup := by decide
  rw [hnames, List.nodup_append]
  refine ⟨h.nodup, hreserved, ?_⟩
  intro name hname other hother heq
  obtain ⟨pair, hpair, rfl⟩ := List.mem_map.1 hname
  obtain ⟨hlist, hsignature⟩ := h.unreserved pair hpair
  simp only [List.mem_cons, List.not_mem_nil, or_false] at hother
  rcases hother with rfl | rfl
  · exact hlist heq
  · exact hsignature heq

theorem nodup_written (h : IsSignable pairs)
    (hperm : written.Perm (elementWritten pairs signature)) : (written.map Prod.fst).Nodup :=
  (hperm.map Prod.fst).nodup_iff.2 (h.nodup_keys signature)

end IsSignable

/-- All values of a ticket can be read, up to the list of keys. -/
theorem unescape?_of_mem_elementWritten {pair : String × String}
    (hpair : pair ∈ elementWritten pairs signature)
    (hlist : pair = (Envelope.keyListName, elementKeyList pairs) →
      (Percent.unescape? (elementKeyList pairs)).isSome) :
    (Percent.unescape? pair.2).isSome := by
  rcases mem_elementWritten.1 hpair with ⟨signed, -, rfl⟩ | rfl | rfl
  · rw [Delimited.escapedPair, Percent.unescape?_escape]
    rfl
  · exact hlist rfl
  · have hplain : '%' ∉ Base64.encodePadded signature := by
      intro hmem
      exact (Base64.ne_of_mem_encodePadded hmem).2.1 rfl
    rw [Percent.unescape?_of_not_mem hplain]
    rfl

/-- A ticket is unmarked if its keys and values are. -/
theorem isUnmarked_of_perm_elementWritten (hperm : written.Perm (elementWritten pairs signature))
    (h : ∀ pair ∈ pairs, IsUnmarked pair.1.toList ∧ IsUnmarked pair.2.toList) :
    IsUnmarked (Delimited.rawLine written) := by
  have hreserved : Envelope.keyListName ∈ ticketNames ∧ signatureKey ∈ ticketNames := by decide
  rw [isUnmarked_rawLine_iff]
  intro pair hpair
  rcases mem_elementWritten.1 (hperm.mem_iff.1 hpair) with ⟨signed, hsigned, rfl⟩ | rfl | rfl
  · obtain ⟨hkey, hvalue⟩ := h signed hsigned
    refine ⟨hkey, ?_⟩
    rw [Delimited.escapedPair, String.toList_ofList, isUnmarked_escape_iff]
    exact hvalue
  · refine ⟨isUnmarked_of_mem_ticketNames hreserved.1, ?_⟩
    apply isUnmarked_intercalate
    intro name hname
    obtain ⟨signed, hsigned, rfl⟩ := List.mem_map.1 hname
    exact (h signed hsigned).1
  · refine ⟨isUnmarked_of_mem_ticketNames hreserved.2, ?_⟩
    rw [String.toList_ofList]
    exact isUnmarked_encodePadded signature

/-- A ticket with its pairs in reverse ends with the first signed value. -/
theorem IsSignable.isTrimmed_reverse {first : String × String} (h : IsSignable (first :: pairs))
    (hvalue : ((Percent.escape first.2.toList).getLast?.any isBlank) = false)
    (signature : List UInt8) :
    IsTrimmed (Delimited.rawLine (elementWritten (first :: pairs) signature).reverse) := by
  have hsignature : signatureKey ∈ ticketNames := by decide
  obtain ⟨-, -, hname⟩ := ticketNames_plain signatureKey hsignature
  have hne : (elementWritten (first :: pairs) signature).reverse ≠ [] := by simp [elementWritten]
  refine (Delimited.isTrimmed_rawLine_iff hne ?_).2 ⟨?_, ?_⟩
  · intro pair hpair
    exact (h.isPair (List.mem_reverse.1 hpair)).key_ne_empty
  · intro pair hpair
    rw [elementWritten, List.reverse_append, List.head?_append] at hpair
    cases hpair
    exact hname
  · intro pair hpair
    rw [List.getLast?_reverse, elementWritten, List.map_cons, List.cons_append,
      List.head?_cons] at hpair
    cases hpair
    intro c hc
    rw [Delimited.escapedPair, String.toList_ofList, Option.mem_def] at hc
    rwa [hc, Option.any_some] at hvalue

/-! ## The check -/

/-- What the check of a ticket of a storage element gives. -/
def verifiedElement (pairs written : List (String × String)) : VerifiedEnvelope :=
  ⟨⟨.delimited, written.map EnvelopeField.ofWritten⟩, pairs.map Prod.fst⟩

/-- A pair that is written, in whatever place, is found by its key. -/
theorem IsSignable.findField?_ofWritten (h : IsSignable pairs)
    (hperm : written.Perm (elementWritten pairs signature)) {pair : String × String}
    (hpair : pair ∈ elementWritten pairs signature) :
    findField? pair.1 (verifiedElement pairs written).envelope.fields =
      some (EnvelopeField.ofWritten pair) := by
  have hnodup := h.nodup_written hperm
  rw [← Delimited.keys_map_ofWritten] at hnodup
  exact (findField?_eq_some_iff hnodup).2
    ⟨List.mem_map_of_mem (hperm.mem_iff.2 hpair), rfl⟩

theorem IsSignable.raw?_verifiedElement (h : IsSignable pairs)
    (hperm : written.Perm (elementWritten pairs signature)) {pair : String × String}
    (hpair : pair ∈ elementWritten pairs signature) :
    (verifiedElement pairs written).envelope.raw? pair.1 = some pair.2 := by
  rw [ReceivedEnvelope.raw?, h.findField?_ofWritten hperm hpair]
  rfl

/-- Each signed pair has its value, written with escapes. -/
theorem IsSignable.get?_verifiedElement (h : IsSignable pairs)
    (hperm : written.Perm (elementWritten pairs signature)) {pair : String × String}
    (hpair : pair ∈ pairs) :
    (verifiedElement pairs written).get? pair.1 = some pair.2 := by
  have hfield := h.findField?_ofWritten hperm
    (mem_elementWritten.2 (Or.inl ⟨pair, hpair, rfl⟩))
  have hvalue : (EnvelopeField.ofWritten (Delimited.escapedPair pair)).value = pair.2 := by
    simp [EnvelopeField.ofWritten, Delimited.escapedPair, Percent.unescape?_escape]
  rw [VerifiedEnvelope.get?, ReceivedEnvelope.get?]
  rw [Delimited.escapedPair] at hfield hvalue
  rw [hfield, Option.map_some, hvalue]

/-- A ticket of a storage element is accepted in whatever order its pairs are written, if its
signature is right and its list of keys can be read. -/
theorem IsSignable.accepts_elementWritten (h : IsSignable pairs)
    (hverify : keys.element.verify .sha384 (bytesOfChars (elementText pairs)) signature = .ok ())
    (hperm : written.Perm (elementWritten pairs signature))
    (htrim : IsTrimmed (Delimited.rawLine written))
    (hunmarked : IsUnmarked (Delimited.rawLine written))
    (hlist : (Percent.unescape? (elementKeyList pairs)).isSome) :
    keys.Accepts (String.ofList (Delimited.rawLine written)) false (verifiedElement pairs written)
      (pairs.map Delimited.escapedPair) (elementKeyList pairs) where
  parse := by
    have hne : written ≠ [] := by
      rintro rfl
      have hlength := hperm.length_eq
      simp [elementWritten] at hlength
    have hline : Delimited.IsLine (written.map EnvelopeField.ofWritten) := by
      apply Delimited.isLine_map_ofWritten hne
      · intro pair hpair
        exact h.isPair (hperm.mem_iff.1 hpair)
      · intro pair hpair
        exact unescape?_of_mem_elementWritten (hperm.mem_iff.1 hpair) fun _ => hlist
      · exact h.nodup_written hperm
    rw [verifiedElement, ReceivedEnvelope.parse_eq_ok_delimited_iff, String.toList_ofList,
      trim_eq_self htrim, Delimited.map_written_map_ofWritten]
    exact ⟨hunmarked, hline, rfl⟩
  format := rfl
  signedKeys := h.listedKeys_elementKeyList.symm
  listed := h.raw?_verifiedElement hperm (mem_elementWritten.2 (Or.inr (Or.inl rfl)))
  pairs_keys := by
    rw [keys_map_escapedPair, h.listedKeys_elementKeyList]
  raw := by
    intro pair hpair
    obtain ⟨signed, hsigned, rfl⟩ := List.mem_map.1 hpair
    exact h.raw?_verifiedElement hperm (mem_elementWritten.2 (Or.inl ⟨signed, hsigned, rfl⟩))
  signature := by
    refine ⟨String.ofList (Base64.encodePadded signature), signature, ?_, ?_, ?_⟩
    · exact h.raw?_verifiedElement hperm (mem_elementWritten.2 (Or.inr (Or.inr rfl)))
    · rw [String.toList_ofList, Base64.decodePadded?_encodePadded]
    · rw [← elementText_eq_rawLine h.ne_nil]
      exact hverify

/-- A ticket whose list of keys cannot be read is refused for it, in whatever order its pairs are
written. -/
theorem IsSignable.verify_eq_error (h : IsSignable pairs)
    (hperm : written.Perm (elementWritten pairs signature))
    (htrim : IsTrimmed (Delimited.rawLine written))
    (hunmarked : IsUnmarked (Delimited.rawLine written))
    (hlist : Percent.unescape? (elementKeyList pairs) = none) (selfSigned : Bool) :
    keys.verify (String.ofList (Delimited.rawLine written)) selfSigned =
      .error (.envelope (.invalidEscape (elementKeyList pairs))) := by
  have hnodup := h.nodup_written hperm
  -- The fields in front of the list can be read, so the list is the first that cannot.
  obtain ⟨front, back, rfl⟩ := List.append_of_mem
    (hperm.mem_iff.2 (mem_elementWritten.2 (Or.inr (Or.inl rfl))))
  rw [List.map_append, List.map_cons, List.nodup_append] at hnodup
  obtain ⟨hfront, -, hapart⟩ := hnodup
  have hfields : Delimited.parse
      (Delimited.rawLine (front ++ (Envelope.keyListName, elementKeyList pairs) :: back)) =
        .error (.invalidEscape (elementKeyList pairs)) := by
    refine Delimited.parse_eq_error_of_unescape? (trim_eq_self htrim) ?_ hfront ?_ hlist
    · intro pair hpair
      exact h.isPair (hperm.mem_iff.1 hpair)
    · intro pair hpair
      refine unescape?_of_mem_elementWritten (hperm.mem_iff.1 (List.mem_append_left _ hpair)) ?_
      rintro rfl
      exact absurd rfl (hapart _ (List.mem_map_of_mem hpair) _ (by simp))
  have hformat := (EnvelopeFormat.detect_rawLine_eq_delimited_iff (by simp)).2 hunmarked
  have hparse : ReceivedEnvelope.parse (String.ofList
      (Delimited.rawLine (front ++ (Envelope.keyListName, elementKeyList pairs) :: back))) =
        .error (.invalidEscape (elementKeyList pairs)) := by
    simp only [ReceivedEnvelope.parse, String.toList_ofList, hformat, hfields]
  rw [KeyRing.verify, hparse]
  rfl

/-- A ticket signed by a storage element is accepted in whatever order its pairs are written, as long
as it has no white space at its ends and no mark of the markup form, and its list of keys can be
read, as it can without percent signs. The bytes put together again are those that were signed, the
signed keys are those of the pairs in their order, and each has its value. Otherwise the ticket is
refused for its list of keys, whose escapes denote no text. -/
theorem verify_elementSigned {key : RsaPrivateKey} (hkeys : key.SignsFor keys.element)
    (hpairs : IsSignable pairs)
    (hsign : key.sign .sha384 (bytesOfChars (elementText pairs)) = .ok signature)
    (hperm : written.Perm (elementWritten pairs signature))
    (htrim : IsTrimmed (Delimited.rawLine written))
    (hunmarked : IsUnmarked (Delimited.rawLine written)) :
    ((Percent.unescape? (elementKeyList pairs)).isSome →
      ∃ verified, keys.verify (String.ofList (Delimited.rawLine written)) false = .ok verified ∧
        verified.message? false = some (bytesOfChars (elementText pairs)) ∧
        verified.signedKeys = pairs.map Prod.fst ∧
        ∀ pair ∈ pairs, verified.get? pair.1 = some pair.2) ∧
    ((∀ pair ∈ pairs, '%' ∉ pair.1.toList) →
      (Percent.unescape? (elementKeyList pairs)).isSome) ∧
    (Percent.unescape? (elementKeyList pairs) = none →
      keys.verify (String.ofList (Delimited.rawLine written)) false =
        .error (.envelope (.invalidEscape (elementKeyList pairs)))) := by
  refine ⟨?_, ?_, ?_⟩
  · intro hlist
    have haccepts := hpairs.accepts_elementWritten (hkeys _ _ _ hsign) hperm htrim hunmarked hlist
    refine ⟨_, KeyRing.verify_eq_ok_iff.2 ⟨_, _, haccepts⟩, ?_, rfl, ?_⟩
    · rw [haccepts.message?, ← elementText_eq_rawLine hpairs.ne_nil]
    · intro pair hpair
      exact hpairs.get?_verifiedElement hperm hpair
  · intro hplain
    rw [unescape?_elementKeyList hplain]
    rfl
  · intro hlist
    exact hpairs.verify_eq_error hperm htrim hunmarked hlist false

/-! ## Samples -/

theorem signsFor_element_mersenneRing : mersennePair.SignsFor mersenneRing.element :=
  isGenuine_mersennePair.signsFor

theorem exists_element_signature (pairs : List (String × String)) : ∃ signature,
    mersennePair.sign .sha384 (bytesOfChars (elementText pairs)) = .ok signature := by
  have hsize : 78 ≤ mersennePair.publicKey.size := by
    rw [size_mersennePair]
    decide
  exact RsaPrivateKey.exists_signature hsize _ _

/-- A ticket with its pairs in reverse, one of whose keys holds a percent sign. -/
theorem verify_elementSigned_sample : ∃ sealed verified,
    mersenneRing.verify sealed false = .ok verified ∧
      verified.signedKeys = ["size", "100%"] ∧ verified.get? "100%" = some "a=b & c" := by
  let pairs : List (String × String) := [("size", "42"), ("100%", "a=b & c")]
  have hpairs : IsSignable pairs := by decide
  have hplain : ∀ pair ∈ pairs, IsUnmarked pair.1.toList ∧ IsUnmarked pair.2.toList := by
    decide +kernel
  have hlist : (Percent.unescape? (elementKeyList pairs)).isSome := by
    decide +kernel
  obtain ⟨signature, hsign⟩ := exists_element_signature pairs
  have hperm := (elementWritten pairs signature).reverse_perm
  obtain ⟨haccepted, -, -⟩ := verify_elementSigned signsFor_element_mersenneRing hpairs hsign hperm
    (hpairs.isTrimmed_reverse (by decide) signature)
    (isUnmarked_of_perm_elementWritten hperm hplain)
  obtain ⟨verified, hverify, -, hkeys, hvalues⟩ := haccepted hlist
  have hmem : ("100%", "a=b & c") ∈ pairs := by decide
  exact ⟨_, verified, hverify, hkeys, hvalues _ hmem⟩

/-- The escape in the key of a pair denotes no text, so a ticket of this pair is refused, though a
storage element can sign it. -/
theorem unreadable_list_refused : ∃ signature written,
    IsSignable [("%FF", "x")] ∧ mersennePair.SignsFor mersenneRing.element ∧
    mersennePair.sign .sha384 (bytesOfChars (elementText [("%FF", "x")])) = .ok signature ∧
    written.Perm (elementWritten [("%FF", "x")] signature) ∧
    IsTrimmed (Delimited.rawLine written) ∧ IsUnmarked (Delimited.rawLine written) ∧
    ∀ verified, mersenneRing.verify (String.ofList (Delimited.rawLine written)) false ≠
      .ok verified := by
  have hpairs : IsSignable [("%FF", "x")] := by decide
  have hlist : Percent.unescape? (elementKeyList [("%FF", "x")]) = none := by
    decide +kernel
  obtain ⟨signature, hsign⟩ := exists_element_signature [("%FF", "x")]
  have hperm := (elementWritten [("%FF", "x")] signature).reverse_perm
  have htrim := hpairs.isTrimmed_reverse (by decide) signature
  have hunmarked := isUnmarked_of_perm_elementWritten hperm (by decide +kernel)
  refine ⟨signature, _, hpairs, signsFor_element_mersenneRing, hsign, hperm, htrim, hunmarked, ?_⟩
  intro verified hverified
  rw [hpairs.verify_eq_error hperm htrim hunmarked hlist] at hverified
  cases hverified

end GridAccess
