import GridAccess.Proofs.Envelope.Line
import GridAccess.Ticket.Verify
import Mathlib.Data.List.Infix

/-!
# What a signature covers

A signed ticket is accepted if the listed pairs, as they were written, make up a text that its
signature covers. The pairs are determined by the bytes of that text.

## Main definitions

- `VerifiedEnvelope.message?` — the bytes that the signature covers
- `Crypto.KeyRing.Accepts` — a ticket, its fields and the listed pairs, if the ticket is accepted

## Main statements

- `Crypto.KeyRing.verify_eq_ok_iff` — which tickets are accepted
- `Crypto.KeyRing.Accepts.eq_of_message?_eq` — the bytes determine the pairs and the list of keys
-/

namespace GridAccess

open Crypto Text

/-! ## Lists of keys -/

theorem listedKeys_injective {a b : String} (h : listedKeys a = listedKeys b) : a = b := by
  have hpieces : ∀ text : String,
      (listedKeys text).map String.toList = text.toList.splitOn '-' := by
    intro text
    rw [listedKeys, List.map_map]
    have hid : String.toList ∘ String.ofList = id := by
      funext piece
      exact String.toList_ofList
    rw [hid, List.map_id]
  have hsplit : a.toList.splitOn '-' = b.toList.splitOn '-' := by
    rw [← hpieces, ← hpieces, h]
  have hjoin := congrArg (['-'].intercalate ·) hsplit
  simp only [List.intercalate_splitOn] at hjoin
  exact String.toList_injective hjoin

theorem listedKeys_ne_nil (keyList : String) : listedKeys keyList ≠ [] := by
  rw [listedKeys, Ne, List.map_eq_nil_iff]
  exact List.splitOn_ne_nil _ _

/-- Names without hyphens are read back from their list. -/
theorem listedKeys_intercalate {names : List String} (hne : names ≠ [])
    (h : ∀ name ∈ names, '-' ∉ name.toList) : listedKeys ("-".intercalate names) = names := by
  have hsplit : (['-'].intercalate (names.map String.toList)).splitOn '-' =
      names.map String.toList := by
    apply List.splitOn_intercalate
    · intro piece hpiece
      obtain ⟨name, hname, rfl⟩ := List.mem_map.1 hpiece
      exact h name hname
    · simpa using hne
  have hid : String.ofList ∘ String.toList = id := by
    funext name
    exact String.ofList_toList
  have hhyphen : "-".toList = ['-'] := rfl
  rw [listedKeys, String.toList_intercalate, hhyphen, hsplit, List.map_map, hid, List.map_id]

/-- A mark without hyphens occurs in a list of names exactly if it occurs in one of them. -/
theorem isInfix_intercalate_names_iff {mark : List Char} (hne : mark ≠ []) (hapart : '-' ∉ mark)
    {names : List String} :
    mark <:+: ("-".intercalate names).toList ↔ ∃ name ∈ names, mark <:+: name.toList := by
  have hhyphen : "-".toList = ['-'] := rfl
  rw [String.toList_intercalate, hhyphen, isInfix_intercalate_iff hne hapart]
  simp

/-- The characters of a list of names are hyphens and those of the names. -/
theorem mem_toList_intercalate {names : List String} {c : Char}
    (h : c ∈ ("-".intercalate names).toList) : c = '-' ∨ ∃ name ∈ names, c ∈ name.toList := by
  by_cases hc : c = '-'
  · exact Or.inl hc
  · have hoccurs := (List.singleton_infix_iff _ _).2 h
    rw [isInfix_intercalate_names_iff (by simp) (by simpa using Ne.symm hc)] at hoccurs
    obtain ⟨name, hname, hin⟩ := hoccurs
    exact Or.inr ⟨name, hname, (List.singleton_infix_iff _ _).1 hin⟩

/-- No mark of the markup form holds a hyphen, so a list of names is unmarked if the names are. -/
theorem isUnmarked_intercalate {names : List String} (h : ∀ name ∈ names, IsUnmarked name.toList) :
    IsUnmarked ("-".intercalate names).toList := by
  have hmarks : ∀ mark ∈ formatMarks, mark ≠ [] ∧ '-' ∉ mark := by decide
  intro mark hmark hoccurs
  obtain ⟨hne, hapart⟩ := hmarks mark hmark
  obtain ⟨name, hname, hin⟩ := (isInfix_intercalate_names_iff hne hapart).1 hoccurs
  exact h name hname mark hmark hin

/-! ## The covered text -/

/-- The pair that follows the listed ones in the tickets of storage elements. -/
def trailer (selfSigned : Bool) (keyList : String) : List (String × String) :=
  if selfSigned then [] else [(Envelope.keyListName, keyList)]

theorem writtenPair_eq_ok_iff {envelope : ReceivedEnvelope} {key : String} {text : List Char} :
    writtenPair envelope key = .ok text ↔
      ∃ raw, envelope.raw? key = some raw ∧ text = Delimited.rawPair (key, raw) := by
  rw [writtenPair]
  cases envelope.raw? key with
  | none => simp
  | some raw => simp [Delimited.rawPair, eq_comm]

/-- The written pairs of listed keys are found if each of the keys has a value. -/
theorem mapM_writtenPair_eq_ok_iff {envelope : ReceivedEnvelope} {keys : List String}
    {texts : List (List Char)} :
    keys.mapM (writtenPair envelope) = .ok texts ↔
      ∃ pairs : List (String × String), pairs.map Prod.fst = keys ∧
        (∀ pair ∈ pairs, envelope.raw? pair.1 = some pair.2) ∧
        texts = pairs.map Delimited.rawPair := by
  induction keys generalizing texts with
  | nil =>
    constructor
    · intro h
      cases h
      exact ⟨[], rfl, by simp, rfl⟩
    · rintro ⟨pairs, hkeys, -, rfl⟩
      rw [List.map_eq_nil_iff.1 hkeys]
      rfl
  | cons key keys ih =>
    simp only [List.mapM_cons, bind_eq_ok_iff, writtenPair_eq_ok_iff, ih]
    constructor
    · rintro ⟨_, ⟨raw, hraw, rfl⟩, _, ⟨pairs, rfl, hpairs, rfl⟩, htexts⟩
      cases htexts
      exact ⟨(key, raw) :: pairs, rfl, List.forall_mem_cons.2 ⟨hraw, hpairs⟩, rfl⟩
    · rintro ⟨pairs, hkeys, hpairs, rfl⟩
      obtain ⟨⟨_, raw⟩, pairs, rfl, rfl, rfl⟩ := List.map_eq_cons_iff.1 hkeys
      obtain ⟨hraw, hpairs⟩ := List.forall_mem_cons.1 hpairs
      exact ⟨_, ⟨raw, hraw, rfl⟩, _, ⟨pairs, rfl, hpairs, rfl⟩, rfl⟩

/-- The covered text is the line of the listed pairs and the trailer. -/
theorem coveredText_eq_ok_iff {envelope : ReceivedEnvelope} {selfSigned : Bool} {keyList : String}
    {text : List Char} :
    coveredText envelope selfSigned keyList = .ok text ↔
      ∃ pairs : List (String × String), pairs.map Prod.fst = listedKeys keyList ∧
        (∀ pair ∈ pairs, envelope.raw? pair.1 = some pair.2) ∧
        text = Delimited.rawLine (pairs ++ trailer selfSigned keyList) := by
  have hlast : ∀ pairs : List (String × String), pairs.map Prod.fst = listedKeys keyList →
      (if selfSigned then return ['&'].intercalate (pairs.map Delimited.rawPair)
        else return ['&'].intercalate (pairs.map Delimited.rawPair) ++
          '&' :: Envelope.keyListName.toList ++ '=' :: keyList.toList) =
        (.ok (Delimited.rawLine (pairs ++ trailer selfSigned keyList)) :
          Except VerifyError (List Char)) := by
    intro pairs hkeys
    cases selfSigned with
    | true => simp [trailer, Delimited.rawLine, pure, Except.pure]
    | false =>
      -- A list of keys is never empty, so there is a pair for the trailer to follow.
      have hne : pairs ≠ [] := by
        rintro rfl
        exact listedKeys_ne_nil keyList hkeys.symm
      rw [trailer, if_neg (by decide), if_neg (by decide),
        Delimited.rawLine_append hne (List.cons_ne_nil _ _)]
      simp [Delimited.rawLine, Delimited.rawPair, pure, Except.pure]
  simp only [coveredText, bind_eq_ok_iff, mapM_writtenPair_eq_ok_iff]
  constructor
  · rintro ⟨_, ⟨pairs, hkeys, hpairs, rfl⟩, htext⟩
    rw [hlast pairs hkeys] at htext
    cases htext
    exact ⟨pairs, hkeys, hpairs, rfl⟩
  · rintro ⟨pairs, hkeys, hpairs, rfl⟩
    exact ⟨_, ⟨pairs, hkeys, hpairs, rfl⟩, hlast pairs hkeys⟩

/-! ## Accepted tickets -/

/-- The bytes that the signature of a checked ticket covers, put together as in the check. -/
def VerifiedEnvelope.message? (verified : VerifiedEnvelope) (selfSigned : Bool) :
    Option (List UInt8) :=
  (verified.envelope.raw? Envelope.keyListName).bind fun keyList =>
    (coveredText verified.envelope selfSigned keyList).toOption.map bytesOfChars

namespace Crypto.KeyRing

/-- A ticket that is accepted: its fields form a line, the listed pairs are among them, and the
signature covers the pairs. -/
structure Accepts (keys : KeyRing) (sealed : String) (selfSigned : Bool)
    (verified : VerifiedEnvelope) (pairs : List (String × String)) (keyList : String) : Prop where
  parse : ReceivedEnvelope.parse sealed = .ok verified.envelope
  format : verified.envelope.format = .delimited
  signedKeys : verified.signedKeys = listedKeys keyList
  listed : verified.envelope.raw? Envelope.keyListName = some keyList
  pairs_keys : pairs.map Prod.fst = listedKeys keyList
  raw : ∀ pair ∈ pairs, verified.envelope.raw? pair.1 = some pair.2
  signature : ∃ encoded signature, verified.envelope.raw? signatureKey = some encoded ∧
    Base64.decodePadded? encoded.toList = some signature ∧
    (keys.verifying selfSigned).verify .sha384
      (bytesOfChars (Delimited.rawLine (pairs ++ trailer selfSigned keyList))) signature = .ok ()

variable {keys : KeyRing} {sealed : String} {selfSigned : Bool} {verified : VerifiedEnvelope}
  {pairs : List (String × String)} {keyList : String}

theorem Accepts.coveredText_eq (h : keys.Accepts sealed selfSigned verified pairs keyList) :
    coveredText verified.envelope selfSigned keyList =
      .ok (Delimited.rawLine (pairs ++ trailer selfSigned keyList)) :=
  coveredText_eq_ok_iff.2 ⟨pairs, h.pairs_keys, h.raw, rfl⟩

/-- Which tickets are accepted. -/
theorem verify_eq_ok_iff :
    keys.verify sealed selfSigned = .ok verified ↔
      ∃ pairs keyList, keys.Accepts sealed selfSigned verified pairs keyList := by
  constructor
  · intro h
    rw [verify] at h
    cases hparse : ReceivedEnvelope.parse sealed with
    | error e =>
      rw [hparse] at h
      cases h
    | ok envelope =>
      rw [hparse] at h
      simp only [mapError_ok, bind, Except.bind] at h
      split at h
      · cases h
      next hformat =>
      split at h
      · cases h
      next keyList hkeyList =>
      split at h
      · cases h
      next encoded hencoded =>
      split at h
      · cases h
      next signature hsignature =>
      split at h
      · cases h
      next text htext =>
      split at h
      · next hverify =>
        cases h
        obtain ⟨pairs, hpairs, hraw, rfl⟩ := coveredText_eq_ok_iff.1 htext
        exact ⟨pairs, keyList, hparse, by simpa using hformat, rfl, hkeyList, hpairs, hraw,
          encoded, signature, hencoded, hsignature, hverify⟩
      · cases h
  · rintro ⟨pairs, keyList, h⟩
    obtain ⟨encoded, signature, hencoded, hsignature, hverify⟩ := h.signature
    rw [verify, h.parse]
    simp only [mapError_ok, bind, Except.bind, h.format, h.listed, hencoded, hsignature,
      h.coveredText_eq, hverify, ← h.signedKeys, ne_eq, not_true_eq_false, if_false]
    rfl

namespace Accepts

/-- The fields of an accepted ticket form an unmarked line. -/
theorem isLine (h : keys.Accepts sealed selfSigned verified pairs keyList) :
    IsUnmarked sealed.toList ∧ Delimited.IsLine verified.envelope.fields ∧
      trim sealed.toList =
        Delimited.rawLine (verified.envelope.fields.map EnvelopeField.written) := by
  apply ReceivedEnvelope.parse_eq_ok_delimited_iff.1
  rw [h.parse, ← h.format]

theorem message? (h : keys.Accepts sealed selfSigned verified pairs keyList) :
    verified.message? selfSigned =
      some (bytesOfChars (Delimited.rawLine (pairs ++ trailer selfSigned keyList))) := by
  rw [VerifiedEnvelope.message?, h.listed, Option.bind_some, h.coveredText_eq]
  rfl

/-- The covered pairs and the trailer are written in fields of the ticket. -/
theorem raw_of_mem (h : keys.Accepts sealed selfSigned verified pairs keyList)
    {pair : String × String} (hpair : pair ∈ pairs ++ trailer selfSigned keyList) :
    verified.envelope.raw? pair.1 = some pair.2 := by
  rcases List.mem_append.1 hpair with hpair | hpair
  · exact h.raw pair hpair
  · cases selfSigned with
    | true => cases hpair
    | false =>
      rw [trailer, if_neg (by decide), List.mem_singleton] at hpair
      rw [hpair]
      exact h.listed

end Accepts

end Crypto.KeyRing

/-- The field in which a value of a delimited envelope is written. -/
theorem ReceivedEnvelope.exists_of_raw? {envelope : ReceivedEnvelope}
    (hnodup : (envelope.fields.map EnvelopeField.key).Nodup) {key raw : String}
    (h : envelope.raw? key = some raw) :
    ∃ field ∈ envelope.fields, field.key = key ∧ field.raw = raw ∧
      envelope.get? key = some field.value := by
  rw [raw?, Option.map_eq_some_iff] at h
  obtain ⟨field, hfield, hraw⟩ := h
  obtain ⟨hmem, hkey⟩ := (findField?_eq_some_iff hnodup).1 hfield
  refine ⟨field, hmem, hkey, hraw, ?_⟩
  rw [get?, hfield]
  rfl

namespace Crypto.KeyRing.Accepts

variable {keys : KeyRing} {sealed other : String} {selfSigned : Bool}
  {verified otherVerified : VerifiedEnvelope} {pairs otherPairs : List (String × String)}
  {keyList otherList : String}

/-- The covered pairs and the trailer can be told apart in a line, and none of them is marked. -/
theorem isPair (h : keys.Accepts sealed selfSigned verified pairs keyList)
    {pair : String × String} (hpair : pair ∈ pairs ++ trailer selfSigned keyList) :
    Delimited.IsPair pair ∧ IsUnmarked pair.1.toList ∧ IsUnmarked pair.2.toList := by
  obtain ⟨hunmarked, hline, htext⟩ := h.isLine
  obtain ⟨field, hfield, hkey, hraw, -⟩ :=
    ReceivedEnvelope.exists_of_raw? hline.nodup (h.raw_of_mem hpair)
  have hwritten : field.written = pair := Prod.ext hkey hraw
  rw [← hwritten]
  exact ⟨hline.isPair field hfield, hunmarked.written htext hfield⟩

theorem ne_nil (h : keys.Accepts sealed selfSigned verified pairs keyList) : pairs ≠ [] := by
  rintro rfl
  exact listedKeys_ne_nil keyList h.pairs_keys.symm

/-- The covered bytes determine the listed pairs and the list of keys. -/
theorem eq_of_message?_eq (h : keys.Accepts sealed selfSigned verified pairs keyList)
    (hother : keys.Accepts other selfSigned otherVerified otherPairs otherList)
    (hmessage : verified.message? selfSigned = otherVerified.message? selfSigned) :
    pairs = otherPairs ∧ keyList = otherList := by
  rw [h.message?, hother.message?, Option.some.injEq] at hmessage
  have htext : Delimited.rawLine (pairs ++ trailer selfSigned keyList) =
      Delimited.rawLine (otherPairs ++ trailer selfSigned otherList) := by
    have hstring := Utf8.encode_injective hmessage
    simpa using congrArg String.toList hstring
  have hlines : pairs ++ trailer selfSigned keyList =
      otherPairs ++ trailer selfSigned otherList := by
    apply Delimited.rawLine_injective _ _ _ _ htext
    · exact List.append_ne_nil_of_left_ne_nil h.ne_nil _
    · exact List.append_ne_nil_of_left_ne_nil hother.ne_nil _
    · intro pair hpair
      exact (h.isPair hpair).1
    · intro pair hpair
      exact (hother.isPair hpair).1
  -- The trailers have one length, so the lines differ neither in front of them nor in them.
  have hlength : (trailer selfSigned keyList).length = (trailer selfSigned otherList).length := by
    cases selfSigned <;> rfl
  have hpairs : pairs = otherPairs := (List.append_inj' hlines hlength).1
  have hkeys : listedKeys keyList = listedKeys otherList := by
    rw [← h.pairs_keys, ← hother.pairs_keys, hpairs]
  exact ⟨hpairs, listedKeys_injective hkeys⟩

end Crypto.KeyRing.Accepts

end GridAccess
