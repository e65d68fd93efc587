import GridAccess.Proofs.Envelope.Canonical
import GridAccess.Proofs.Text.Base64
import GridAccess.Proofs.Ticket.Coverage

/-!
# Fields of signed tickets

The text that a signature covers is a line, and so is the whole ticket. Their fields say again what
the envelope says, and who issued the ticket and when. Whatever fields stand behind those of the
envelope, it is read back, as long as they do not have its names.

## Main definitions

- `EnvelopeField.ofPair` — the field that a written pair is read as
- `signedFields` — the fields of the covered text
- `signatureField` — the field of the signature

## Main statements

- `isLine_map_ofPair`, `isLine_signedFields`, `isLine_ticketFields` — the fields form lines
- `ofReceived_pairs`, `ofReceived_signedFields` — the envelope is read back
- `listedKeys_signedKeyList` — the list of keys is read back
-/

namespace GridAccess

open Crypto Text

/-! ## Names -/

/-- The names in signed tickets. -/
def ticketNames : List String :=
  EnvelopeKey.canonical.map EnvelopeKey.name ++
    Envelope.keyListName :: issuerKeys ++ [signatureKey]

/-- Names in signed tickets hold no delimiter, no hyphen and no escape, and do not start with white
space. -/
theorem ticketNames_plain : ∀ name ∈ ticketNames, name ≠ "" ∧
    (∀ c ∈ name.toList, c ≠ '=' ∧ c ≠ '&' ∧ c ≠ '-' ∧ c ≠ '%') ∧
    ∀ c ∈ name.toList.head?, isBlank c = false := by
  -- Tests of all characters of a name are written as such, so that none ranges over all characters.
  have hnames : ∀ name ∈ ticketNames, name ≠ "" ∧
      name.toList.all (fun c => c != '=' && c != '&' && c != '-' && c != '%') = true ∧
      name.toList.head?.all (fun c => !isBlank c) = true := by
    decide
  intro name hname
  obtain ⟨hne, hall, hhead⟩ := hnames name hname
  refine ⟨hne, ?_, ?_⟩
  · simpa [and_assoc] using hall
  · intro c hc
    rw [Option.mem_def.1 hc] at hhead
    simpa using hhead

theorem isPair_of_mem_ticketNames {name raw : String} (hname : name ∈ ticketNames)
    (hraw : '&' ∉ raw.toList) : Delimited.IsPair (name, raw) := by
  obtain ⟨hne, hplain, -⟩ := ticketNames_plain name hname
  refine ⟨hne, ?_, ?_, hraw⟩
  · intro hequals
    exact (hplain '=' hequals).1 rfl
  · intro hamp
    exact (hplain '&' hamp).2.1 rfl

/-- No key of an envelope has the name of an issuer's field or of the signature. -/
theorem name_not_mem_issuerKeys (key : EnvelopeKey) :
    key.name ∉ Envelope.keyListName :: issuerKeys ++ [signatureKey] := by
  cases key <;> decide

theorem mem_ticketNames_of_mem_pairs {envelope : Envelope} {pair : String × String}
    (h : pair ∈ envelope.pairs) :
    ∃ key : EnvelopeKey, pair.1 = key.name ∧ pair.1 ∈ ticketNames := by
  obtain ⟨field, -, rfl⟩ := List.mem_map.1 h
  refine ⟨field.1, rfl, ?_⟩
  exact List.mem_append_left _ (List.mem_append_left _
    (List.mem_map_of_mem field.1.mem_canonical))

variable {envelope : Envelope} {issuer : String} {issued expires : UInt64}

theorem keys_signedPairs (envelope : Envelope) (issuer : String) (issued expires : UInt64) :
    (signedPairs envelope issuer issued expires).map Prod.fst =
      envelope.keys.map EnvelopeKey.name ++ Envelope.keyListName :: issuerKeys := by
  rw [signedPairs, List.map_append, Envelope.pairs, Envelope.keys, List.map_map, List.map_map]
  rfl

theorem mem_ticketNames_of_mem_signedPairs {pair : String × String}
    (h : pair ∈ signedPairs envelope issuer issued expires) : pair.1 ∈ ticketNames := by
  rw [signedPairs, List.mem_append] at h
  rcases h with h | h
  · obtain ⟨-, -, hname⟩ := mem_ticketNames_of_mem_pairs h
    exact hname
  · have hall : ∀ name ∈ Envelope.keyListName :: issuerKeys, name ∈ ticketNames := by decide
    exact hall pair.1 (List.mem_map_of_mem (f := Prod.fst) h)

theorem nodup_keys_signedPairs (h : envelope.IsCanonical) (issuer : String)
    (issued expires : UInt64) :
    ((signedPairs envelope issuer issued expires).map Prod.fst).Nodup := by
  rw [signedPairs, List.map_append, List.nodup_append]
  have hissuer : (Envelope.keyListName :: issuerKeys).Nodup := by decide
  refine ⟨h.nodup_names, hissuer, ?_⟩
  intro name hname other hother heq
  obtain ⟨pair, hpair, rfl⟩ := List.mem_map.1 hname
  obtain ⟨key, hkey, -⟩ := mem_ticketNames_of_mem_pairs hpair
  apply name_not_mem_issuerKeys key
  rw [← hkey, heq]
  exact List.mem_append_left _ hother

/-! ## The list of keys -/

/-- A text without delimiters and percent signs needs no escapes. -/
theorem Text.Percent.escape_eq_self {text : List Char}
    (h : ∀ c ∈ text, c ≠ '=' ∧ c ≠ '&' ∧ c ≠ '%') : Percent.escape text = text := by
  apply flatMap_eq_self
  intro c hc
  obtain ⟨hequals, hamp, hpercent⟩ := h c hc
  rw [Percent.escapeChar, if_neg hpercent, if_neg hamp, if_neg hequals]

/-- The list of keys with those of the issuer names all covered pairs. -/
theorem signedKeyList_eq (envelope : Envelope) : signedKeyList envelope = "-".intercalate
    (envelope.keys.map EnvelopeKey.name ++ Envelope.keyListName :: issuerKeys) := by
  have hsplit : envelope.keys.map EnvelopeKey.name ++ Envelope.keyListName :: issuerKeys =
      envelope.keys.map EnvelopeKey.name ++ [Envelope.keyListName] ++ issuerKeys := by
    simp
  have hjoin : "-".intercalate
      (envelope.keys.map EnvelopeKey.name ++ [Envelope.keyListName] ++ issuerKeys) =
      "-".intercalate (envelope.keys.map EnvelopeKey.name ++ [Envelope.keyListName]) ++ "-" ++
        "-".intercalate issuerKeys :=
    String.intercalate_append_of_ne_nil (by simp) (by decide)
  rw [signedKeyList, Envelope.keyList, hsplit, hjoin, String.intercalate_cons_of_ne_nil (by decide)]

theorem mem_ticketNames_of_mem_names {name : String}
    (h : name ∈ envelope.keys.map EnvelopeKey.name ++ Envelope.keyListName :: issuerKeys) :
    name ∈ ticketNames := by
  rw [← keys_signedPairs envelope "" 0 0] at h
  obtain ⟨pair, hpair, rfl⟩ := List.mem_map.1 h
  exact mem_ticketNames_of_mem_signedPairs hpair

theorem listedKeys_signedKeyList (envelope : Envelope) : listedKeys (signedKeyList envelope) =
    envelope.keys.map EnvelopeKey.name ++ Envelope.keyListName :: issuerKeys := by
  rw [signedKeyList_eq]
  apply listedKeys_intercalate (by simp)
  intro name hname hmem
  obtain ⟨-, hplain, -⟩ := ticketNames_plain name (mem_ticketNames_of_mem_names hname)
  exact (hplain '-' hmem).2.2.1 rfl

/-- The characters of the list of keys are hyphens and those of names. -/
theorem mem_toList_signedKeyList {c : Char} (h : c ∈ (signedKeyList envelope).toList) :
    c = '-' ∨ ∃ name ∈ ticketNames, c ∈ name.toList := by
  rw [signedKeyList_eq] at h
  rcases mem_toList_intercalate h with hhyphen | ⟨name, hname, hin⟩
  · exact Or.inl hhyphen
  · exact Or.inr ⟨name, mem_ticketNames_of_mem_names hname, hin⟩

/-- The list of keys holds no delimiter, no escape, no tag and no white space. -/
theorem plain_of_mem_signedKeyList {c : Char} (h : c ∈ (signedKeyList envelope).toList) :
    (c ≠ '=' ∧ c ≠ '&' ∧ c ≠ '%') ∧ c ≠ '<' ∧ isBlank c = false := by
  have hall : ∀ name ∈ ticketNames,
      name.toList.all (fun c => c != '<' && !isBlank c) = true := by
    decide
  rcases mem_toList_signedKeyList h with rfl | ⟨name, hname, hin⟩
  · decide
  · obtain ⟨hequals, hamp, -, hpercent⟩ := (ticketNames_plain name hname).2.1 c hin
    refine ⟨⟨hequals, hamp, hpercent⟩, ?_⟩
    simpa using List.all_eq_true.1 (hall name hname) c hin

/-- The list of keys is written as it is. -/
theorem escape_signedKeyList (envelope : Envelope) :
    Percent.escape (signedKeyList envelope).toList = (signedKeyList envelope).toList :=
  Percent.escape_eq_self fun _ hc => (plain_of_mem_signedKeyList hc).1

/-- The list of keys of an envelope is the front of the one in its tickets. -/
theorem keyList_isPrefix_signedKeyList (envelope : Envelope) :
    envelope.keyList.toList <+: (signedKeyList envelope).toList := by
  rw [signedKeyList, String.intercalate_cons_of_ne_nil (by decide), String.toList_append,
    String.toList_append, List.append_assoc]
  exact List.prefix_append _ _

/-! ## Lines of pairs -/

/-- The field of a pair whose value is written with escapes. -/
def EnvelopeField.ofPair (pair : String × String) : EnvelopeField :=
  ⟨pair.1, String.ofList (Percent.escape pair.2.toList), pair.2⟩

section Pairs

variable {pairs : List (String × String)}

theorem keys_map_ofPair (pairs : List (String × String)) :
    (pairs.map EnvelopeField.ofPair).map EnvelopeField.key = pairs.map Prod.fst := by
  rw [List.map_map]
  rfl

/-- What is written for pairs is the line of their fields. -/
theorem write_eq_rawLine_map_ofPair (pairs : List (String × String)) :
    Delimited.write pairs =
      Delimited.rawLine ((pairs.map EnvelopeField.ofPair).map EnvelopeField.written) := by
  rw [Delimited.write_eq_rawLine, List.map_map]
  rfl

/-- The fields of pairs with names of tickets form a line, if no name stands twice. -/
theorem isLine_map_ofPair (hne : pairs ≠ []) (hnames : ∀ pair ∈ pairs, pair.1 ∈ ticketNames)
    (hnodup : (pairs.map Prod.fst).Nodup) : Delimited.IsLine (pairs.map EnvelopeField.ofPair) where
  ne_nil := by simpa using hne
  isPair := by
    intro field hfield
    obtain ⟨pair, hpair, rfl⟩ := List.mem_map.1 hfield
    apply isPair_of_mem_ticketNames (hnames pair hpair)
    simpa [EnvelopeField.ofPair] using Percent.amp_not_mem_escape pair.2.toList
  unescape := by
    intro field hfield
    obtain ⟨pair, -, rfl⟩ := List.mem_map.1 hfield
    simpa [EnvelopeField.ofPair] using Percent.unescape?_escape pair.2.toList
  nodup := by
    rwa [keys_map_ofPair]

theorem isUnmarked_of_mem_ticketNames {name : String} (h : name ∈ ticketNames) :
    IsUnmarked name.toList := by
  have hall : ∀ name ∈ ticketNames, ' ' ∉ name.toList ∧ '<' ∉ name.toList := by decide
  exact isUnmarked_of_not_mem (hall name h).1 (hall name h).2

/-- The line of pairs with names of tickets is unmarked exactly if the values are, as they are
written. -/
theorem isUnmarked_write_iff (hnames : ∀ pair ∈ pairs, pair.1 ∈ ticketNames) :
    IsUnmarked (Delimited.write pairs) ↔
      ∀ pair ∈ pairs, IsUnmarked (Percent.escape pair.2.toList) := by
  rw [write_eq_rawLine_map_ofPair, isUnmarked_rawLine_iff, List.map_map]
  constructor
  · intro h pair hpair
    have hvalue := (h _ (List.mem_map_of_mem hpair)).2
    simpa [EnvelopeField.ofPair, EnvelopeField.written] using hvalue
  · intro h written hwritten
    obtain ⟨pair, hpair, rfl⟩ := List.mem_map.1 hwritten
    refine ⟨isUnmarked_of_mem_ticketNames (hnames pair hpair), ?_⟩
    simpa [EnvelopeField.ofPair, EnvelopeField.written] using h pair hpair

/-- The field of a pair is found by its key, whatever other fields follow. -/
theorem findField?_map_ofPair (hnodup : (pairs.map Prod.fst).Nodup) {pair : String × String}
    (hpair : pair ∈ pairs) (more : List EnvelopeField) :
    findField? pair.1 (pairs.map EnvelopeField.ofPair ++ more) =
      some (EnvelopeField.ofPair pair) := by
  rw [← keys_map_ofPair] at hnodup
  have hfield : findField? pair.1 (pairs.map EnvelopeField.ofPair) =
      some (EnvelopeField.ofPair pair) :=
    (findField?_eq_some_iff hnodup).2 ⟨List.mem_map_of_mem hpair, rfl⟩
  rw [findField?, List.find?_append, ← findField?, hfield, Option.some_or]

end Pairs

/-! ## Reading the pairs of an envelope -/

section Reading

variable {more : List EnvelopeField}

theorem mem_pairs_of_get?_eq (h : envelope.IsCanonical) {key : EnvelopeKey} {value : String}
    (hvalue : envelope.get? key = some value) : (key.name, value) ∈ envelope.pairs :=
  List.mem_map_of_mem (f := fun field => (field.1.name, field.2)) (h.get?_eq_some_iff.1 hvalue)

/-- The values of an envelope are read back, whatever other fields follow. -/
theorem get?_pairs (h : envelope.IsCanonical)
    (hmore : ∀ field ∈ more, ∀ key : EnvelopeKey, field.key ≠ key.name) (key : EnvelopeKey) :
    (ReceivedEnvelope.mk .delimited
      (envelope.pairs.map EnvelopeField.ofPair ++ more)).get? key.name = envelope.get? key := by
  rw [ReceivedEnvelope.get?]
  cases hvalue : envelope.get? key with
  | some value =>
    rw [findField?_map_ofPair h.nodup_names (mem_pairs_of_get?_eq h hvalue) more]
    rfl
  | none =>
    have hnone : findField? key.name (envelope.pairs.map EnvelopeField.ofPair ++ more) = none := by
      refine findField?_eq_none_iff.2 ?_
      intro field hfield hkey
      rcases List.mem_append.1 hfield with hfield | hfield
      · obtain ⟨pair, hpair, rfl⟩ := List.mem_map.1 hfield
        obtain ⟨⟨other, value⟩, hmem, rfl⟩ := List.mem_map.1 hpair
        have hsame : other = key := EnvelopeKey.name_injective hkey
        rw [hsame, ← h.get?_eq_some_iff, hvalue] at hmem
        cases hmem
      · exact hmore field hfield key hkey
    rw [hnone]
    rfl

theorem get?_pfn_pairs (envelope : Envelope) (hmore : ∀ field ∈ more, field.key ≠ "pfn") :
    (ReceivedEnvelope.mk .delimited
      (envelope.pairs.map EnvelopeField.ofPair ++ more)).get? "pfn" = none := by
  have hnone : findField? "pfn" (envelope.pairs.map EnvelopeField.ofPair ++ more) = none := by
    refine findField?_eq_none_iff.2 ?_
    intro field hfield hkey
    rcases List.mem_append.1 hfield with hfield | hfield
    · obtain ⟨pair, hpair, rfl⟩ := List.mem_map.1 hfield
      obtain ⟨-, -, hname⟩ := mem_ticketNames_of_mem_pairs hpair
      have hpfn : "pfn" ∉ ticketNames := by decide
      exact hpfn (hkey ▸ hname)
    · exact hmore field hfield hkey
  rw [ReceivedEnvelope.get?, hnone]
  rfl

/-- An envelope is read back from its pairs, with the path of the replica that its values tell. -/
theorem ofReceived_pairs (h : envelope.IsCanonical)
    (hmore : ∀ field ∈ more, field.key ≠ "pfn" ∧ ∀ key : EnvelopeKey, field.key ≠ key.name) :
    Envelope.ofReceived (.mk .delimited (envelope.pairs.map EnvelopeField.ofPair ++ more)) =
      .ok { envelope with storagePath := envelope.deliveredPath } := by
  have hget := get?_pairs h fun field hfield => (hmore field hfield).2
  have hpfn := get?_pfn_pairs envelope fun field hfield => (hmore field hfield).1
  have haccess := Envelope.access_eq_of_get?_eq ((hget .access).trans h.access)
  rw [h.ofReceived_eq haccess fun key _ => hget key,
    Envelope.receivedPath_eq_deliveredPath hpfn fun key _ => hget key]

end Reading

/-! ## The fields of the covered text -/

/-- The fields of the covered text. -/
def signedFields (envelope : Envelope) (issuer : String) (issued expires : UInt64) :
    List EnvelopeField :=
  (signedPairs envelope issuer issued expires).map EnvelopeField.ofPair

def signatureField (signature : List UInt8) : EnvelopeField :=
  ⟨signatureKey, String.ofList (Base64.encodePadded signature),
    String.ofList (Base64.encodePadded signature)⟩

def ticketFields (envelope : Envelope) (issuer : String) (issued expires : UInt64)
    (signature : List UInt8) : List EnvelopeField :=
  signedFields envelope issuer issued expires ++ [signatureField signature]

/-- The written pairs of the covered text. -/
def signedWritten (envelope : Envelope) (issuer : String) (issued expires : UInt64) :
    List (String × String) :=
  (signedFields envelope issuer issued expires).map EnvelopeField.written

theorem keys_signedFields (envelope : Envelope) (issuer : String) (issued expires : UInt64) :
    (signedFields envelope issuer issued expires).map EnvelopeField.key =
      (signedPairs envelope issuer issued expires).map Prod.fst :=
  keys_map_ofPair _

theorem keys_signedWritten (envelope : Envelope) (issuer : String) (issued expires : UInt64) :
    (signedWritten envelope issuer issued expires).map Prod.fst =
      envelope.keys.map EnvelopeKey.name ++ Envelope.keyListName :: issuerKeys := by
  rw [signedWritten, ← keys_signedPairs envelope issuer issued expires,
    ← keys_signedFields envelope issuer issued expires, List.map_map]
  rfl

/-- The covered text is the line of its fields. -/
theorem signedText_eq_rawLine (envelope : Envelope) (issuer : String) (issued expires : UInt64) :
    signedText envelope issuer issued expires =
      Delimited.rawLine (signedWritten envelope issuer issued expires) :=
  write_eq_rawLine_map_ofPair _

/-- There is a last field in the covered text, the expiry. -/
theorem signedWritten_eq_append (envelope : Envelope) (issuer : String) (issued expires : UInt64) :
    ∃ front, signedWritten envelope issuer issued expires =
      front ++ [("expires", timeText expires)] := by
  have hdigits : Percent.escape (timeText expires).toList = (timeText expires).toList := by
    apply Percent.escape_eq_self
    intro c hc
    rw [timeText, String.toList_ofList] at hc
    have hdigit : c.isDigit = true := List.all_eq_true.1 (Decimal.all_isDigit_digits _) c hc
    refine ⟨?_, ?_, ?_⟩
    · rintro rfl
      cases hdigit
    · rintro rfl
      cases hdigit
    · rintro rfl
      cases hdigit
  refine ⟨(envelope.pairs ++ [(Envelope.keyListName, signedKeyList envelope), ("issuer", issuer),
    ("issued", timeText issued)]).map fun pair => (EnvelopeField.ofPair pair).written, ?_⟩
  rw [signedWritten, signedFields, List.map_map, signedPairs]
  simp [EnvelopeField.ofPair, EnvelopeField.written, hdigits]

/-- A signed ticket is the line of its fields. -/
theorem toList_withSignature (envelope : Envelope) (issuer : String) (issued expires : UInt64)
    (signature : List UInt8) :
    (withSignature (signedText envelope issuer issued expires) signature).toList =
      Delimited.rawLine
        ((ticketFields envelope issuer issued expires signature).map EnvelopeField.written) := by
  obtain ⟨front, hfront⟩ := signedWritten_eq_append envelope issuer issued expires
  have hne : signedWritten envelope issuer issued expires ≠ [] := by
    rw [hfront]
    simp
  rw [ticketFields, List.map_append, List.map_singleton, ← signedWritten,
    Delimited.rawLine_append hne (List.cons_ne_nil _ _), withSignature, String.toList_ofList,
    signedText_eq_rawLine]
  simp [Delimited.rawLine, Delimited.rawPair, signatureField, EnvelopeField.written]

theorem isLine_signedFields (h : envelope.IsCanonical) (issuer : String)
    (issued expires : UInt64) :
    Delimited.IsLine (signedFields envelope issuer issued expires) := by
  refine isLine_map_ofPair (by simp [signedPairs]) ?_ (nodup_keys_signedPairs h issuer _ _)
  intro pair hpair
  exact mem_ticketNames_of_mem_signedPairs hpair

theorem Delimited.IsLine.concat {fields : List EnvelopeField} {field : EnvelopeField}
    (h : IsLine fields) (hpair : IsPair field.written)
    (hvalue : Percent.unescape? field.raw = some field.value)
    (hnew : field.key ∉ fields.map EnvelopeField.key) : IsLine (fields ++ [field]) where
  ne_nil := by simp
  isPair := by
    intro other hother
    rcases List.mem_append.1 hother with hother | hother
    · exact h.isPair other hother
    · rwa [List.mem_singleton.1 hother]
  unescape := by
    intro other hother
    rcases List.mem_append.1 hother with hother | hother
    · exact h.unescape other hother
    · rwa [List.mem_singleton.1 hother]
  nodup := nodup_keys_concat h.nodup hnew

theorem isLine_ticketFields (h : envelope.IsCanonical) (issuer : String)
    (issued expires : UInt64) (signature : List UInt8) :
    Delimited.IsLine (ticketFields envelope issuer issued expires signature) := by
  apply (isLine_signedFields h issuer issued expires).concat
  · apply isPair_of_mem_ticketNames (by decide : signatureKey ∈ ticketNames)
    intro hamp
    have hmem : '&' ∈ Base64.encodePadded signature := by simpa [signatureField] using hamp
    exact (Base64.ne_of_mem_encodePadded hmem).1 rfl
  · apply Percent.unescape?_of_not_mem
    intro hpercent
    exact (Base64.ne_of_mem_encodePadded hpercent).2.1 rfl
  · have hissuer : signatureKey ∉ Envelope.keyListName :: issuerKeys := by decide
    rw [keys_signedFields, keys_signedPairs, List.mem_append, not_or]
    refine ⟨?_, hissuer⟩
    intro hname
    obtain ⟨key, -, hkey⟩ := List.mem_map.1 hname
    apply name_not_mem_issuerKeys key
    rw [hkey]
    exact List.mem_append_right _ (List.mem_singleton_self _)

/-! ## Marks of the other form -/

/-- The covered text is unmarked exactly if the values are, as they are written. -/
theorem isUnmarked_signedText_iff :
    IsUnmarked (signedText envelope issuer issued expires) ↔
      ∀ pair ∈ signedPairs envelope issuer issued expires,
        IsUnmarked (Percent.escape pair.2.toList) := by
  apply isUnmarked_write_iff
  intro pair hpair
  exact mem_ticketNames_of_mem_signedPairs hpair

theorem isUnmarked_encodePadded (bytes : List UInt8) : IsUnmarked (Base64.encodePadded bytes) := by
  apply isUnmarked_of_not_mem
  · intro hspace
    cases Base64.isBlank_of_mem_encodePadded hspace
  · intro htag
    exact (Base64.ne_of_mem_encodePadded htag).2.2.2 rfl

/-- A ticket is unmarked exactly if the covered text is. -/
theorem isUnmarked_withSignature_iff {signature : List UInt8} :
    IsUnmarked (withSignature (signedText envelope issuer issued expires) signature).toList ↔
      IsUnmarked (signedText envelope issuer issued expires) := by
  rw [toList_withSignature, signedText_eq_rawLine, isUnmarked_rawLine_iff, isUnmarked_rawLine_iff,
    ticketFields, List.map_append, ← signedWritten]
  constructor
  · intro h pair hpair
    exact h pair (List.mem_append_left _ hpair)
  · intro h pair hpair
    rcases List.mem_append.1 hpair with hpair | hpair
    · exact h pair hpair
    · rw [List.map_singleton, List.mem_singleton] at hpair
      rw [hpair]
      refine ⟨isUnmarked_of_mem_ticketNames (by decide : signatureKey ∈ ticketNames), ?_⟩
      simpa [signatureField, EnvelopeField.written] using isUnmarked_encodePadded signature

/-! ## Reading the fields -/

theorem Text.isBlank_of_isDigit {c : Char} (h : c.isDigit = true) : isBlank c = false := by
  obtain ⟨hlow, hhigh⟩ : 48 ≤ c.toNat ∧ c.toNat ≤ 57 := Char.isDigit_iff_toNat.1 h
  simp only [isBlank, Bool.or_eq_false_iff, Bool.and_eq_false_iff, decide_eq_false_iff_not,
    beq_eq_false_iff_ne]
  omega

/-- The line of the covered pairs and some more has no white space at its ends if the last value
does not end with any. -/
theorem isTrimmed_signedWritten (envelope : Envelope) (issuer : String) (issued expires : UInt64)
    {more : List (String × String)} (hnames : ∀ pair ∈ more, pair.1 ∈ ticketNames)
    (hend : ∀ pair ∈ more.getLast?, ∀ c ∈ pair.2.toList.getLast?, isBlank c = false) :
    IsTrimmed (Delimited.rawLine (signedWritten envelope issuer issued expires ++ more)) := by
  obtain ⟨front, hfront⟩ := signedWritten_eq_append envelope issuer issued expires
  have hplain : ∀ pair ∈ signedWritten envelope issuer issued expires ++ more,
      pair.1 ∈ ticketNames := by
    intro pair hpair
    rcases List.mem_append.1 hpair with hpair | hpair
    · have hname : pair.1 ∈ (signedWritten envelope issuer issued expires).map Prod.fst :=
        List.mem_map_of_mem hpair
      rw [keys_signedWritten] at hname
      exact mem_ticketNames_of_mem_names hname
    · exact hnames pair hpair
  refine (Delimited.isTrimmed_rawLine_iff ?_ ?_).2 ⟨?_, ?_⟩
  · rw [hfront]
    simp
  · intro pair hpair
    exact (ticketNames_plain pair.1 (hplain pair hpair)).1
  · intro pair hpair
    exact (ticketNames_plain pair.1 (hplain pair (List.mem_of_mem_head? hpair))).2.2
  · intro pair hpair c hc
    cases hmore : more.getLast? with
    | some last =>
      rw [List.getLast?_append, hmore] at hpair
      cases hpair
      exact hend _ hmore c hc
    | none =>
      rw [List.getLast?_append, hmore, hfront, List.getLast?_concat] at hpair
      cases hpair
      have hdigit : c.isDigit = true := by
        apply List.all_eq_true.1 (Decimal.all_isDigit_digits expires.toNat)
        apply List.mem_of_mem_getLast?
        simpa [timeText] using hc
      exact isBlank_of_isDigit hdigit

/-- The field of a covered pair is found by its key, whatever other fields follow. -/
theorem findField?_signedFields (h : envelope.IsCanonical) {pair : String × String}
    (hpair : pair ∈ signedPairs envelope issuer issued expires) (more : List EnvelopeField) :
    findField? pair.1 (signedFields envelope issuer issued expires ++ more) =
      some (EnvelopeField.ofPair pair) :=
  findField?_map_ofPair (nodup_keys_signedPairs h issuer issued expires) hpair more

theorem mem_signedPairs_of_get?_eq (h : envelope.IsCanonical) {key : EnvelopeKey} {value : String}
    (hvalue : envelope.get? key = some value) :
    (key.name, value) ∈ signedPairs envelope issuer issued expires :=
  List.mem_append_left _ (mem_pairs_of_get?_eq h hvalue)

theorem expires_mem_signedPairs (envelope : Envelope) (issuer : String) (issued expires : UInt64) :
    ("expires", timeText expires) ∈ signedPairs envelope issuer issued expires := by
  simp [signedPairs]

/-- The fields behind those of the envelope have names of their own. -/
theorem exists_signedFields_eq (envelope : Envelope) (issuer : String) (issued expires : UInt64) :
    ∃ added, signedFields envelope issuer issued expires =
        envelope.pairs.map EnvelopeField.ofPair ++ added ∧
      ∀ field ∈ added, field.key ≠ "pfn" ∧ ∀ key : EnvelopeKey, field.key ≠ key.name := by
  refine ⟨_, List.map_append, ?_⟩
  intro field hfield
  obtain ⟨pair, hpair, rfl⟩ := List.mem_map.1 hfield
  have hname : pair.1 ∈ Envelope.keyListName :: issuerKeys :=
    List.mem_map_of_mem (f := Prod.fst) hpair
  have hpfn : "pfn" ∉ Envelope.keyListName :: issuerKeys := by decide
  refine ⟨fun heq => hpfn (heq ▸ hname), ?_⟩
  intro key hkey
  exact name_not_mem_issuerKeys key (hkey ▸ List.mem_append_left _ hname)

/-- The values of the envelope are read back, whatever other fields follow. -/
theorem get?_signedFields (h : envelope.IsCanonical) (issuer : String) (issued expires : UInt64)
    {more : List EnvelopeField}
    (hmore : ∀ field ∈ more, ∀ key : EnvelopeKey, field.key ≠ key.name) (key : EnvelopeKey) :
    (ReceivedEnvelope.mk .delimited
      (signedFields envelope issuer issued expires ++ more)).get? key.name =
        envelope.get? key := by
  obtain ⟨added, hadded, hnames⟩ := exists_signedFields_eq envelope issuer issued expires
  rw [hadded, List.append_assoc]
  apply get?_pairs h
  intro field hfield
  rcases List.mem_append.1 hfield with hfield | hfield
  · exact (hnames field hfield).2
  · exact hmore field hfield

theorem get?_pfn_signedFields (envelope : Envelope) (issuer : String) (issued expires : UInt64)
    {more : List EnvelopeField} (hmore : ∀ field ∈ more, field.key ≠ "pfn") :
    (ReceivedEnvelope.mk .delimited
      (signedFields envelope issuer issued expires ++ more)).get? "pfn" = none := by
  obtain ⟨added, hadded, hnames⟩ := exists_signedFields_eq envelope issuer issued expires
  rw [hadded, List.append_assoc]
  apply get?_pfn_pairs
  intro field hfield
  rcases List.mem_append.1 hfield with hfield | hfield
  · exact (hnames field hfield).1
  · exact hmore field hfield

/-- The envelope is read back from the fields, with the path of the replica that its values tell. -/
theorem ofReceived_signedFields (h : envelope.IsCanonical) (issuer : String)
    (issued expires : UInt64) {more : List EnvelopeField}
    (hmore : ∀ field ∈ more, field.key ≠ "pfn" ∧ ∀ key : EnvelopeKey, field.key ≠ key.name) :
    Envelope.ofReceived (.mk .delimited (signedFields envelope issuer issued expires ++ more)) =
      .ok { envelope with storagePath := envelope.deliveredPath } := by
  obtain ⟨added, hadded, hnames⟩ := exists_signedFields_eq envelope issuer issued expires
  rw [hadded, List.append_assoc]
  apply ofReceived_pairs h
  intro field hfield
  rcases List.mem_append.1 hfield with hfield | hfield
  · exact hnames field hfield
  · exact hmore field hfield

end GridAccess
