import GridAccess.Proofs.Envelope.FieldChange
import GridAccess.Proofs.Ticket.RoundTrip
import Mathlib.Data.List.Basic

/-!
# Fields outside of the signature

The signature of a ticket covers the listed fields only, and a ticket may have others. Whoever holds
an accepted ticket can give any other field any value, and the ticket is still accepted and shows
that value. So what a ticket shows follows from the signed bytes exactly for the listed fields.

## Main definitions

- `VerifiedEnvelope.withValue` — a checked ticket with a value for a key
- `IsDetermined` — what follows from the signed bytes

## Main statements

- `Accepts.withField` — an accepted ticket is accepted with any value of a field that is not listed
- `shown_isDetermined_iff` — what follows from the signed bytes of an accepted ticket
-/

namespace GridAccess

open Crypto Text

/-! ## Values of checked tickets -/

/-- The value of a field is what it was written as. -/
theorem ReceivedEnvelope.get?_eq_bind_raw? {envelope : ReceivedEnvelope}
    (h : Delimited.IsLine envelope.fields) (key : String) :
    envelope.get? key = (envelope.raw? key).bind Percent.unescape? := by
  rw [get?, raw?]
  cases hfield : findField? key envelope.fields with
  | none => rfl
  | some field =>
    obtain ⟨hmem, -⟩ := (findField?_eq_some_iff h.nodup).1 hfield
    exact (h.unescape field hmem).symm

/-- A checked ticket with a value for a key. -/
def VerifiedEnvelope.withValue (verified : VerifiedEnvelope) (key value : String) :
    VerifiedEnvelope :=
  ⟨⟨.delimited, withField (.escaped key value) verified.envelope.fields⟩, verified.signedKeys⟩

theorem raw?_withValue_of_ne (verified : VerifiedEnvelope) {key other : String} (h : other ≠ key)
    (value : String) :
    (verified.withValue key value).envelope.raw? other = verified.envelope.raw? other :=
  congrArg (Option.map EnvelopeField.raw)
    (findField?_withField_of_ne h verified.envelope.fields)

theorem get?_withValue_self (verified : VerifiedEnvelope) (key value : String) :
    (verified.withValue key value).get? key = some value := by
  have hfield := findField?_withField_self (.escaped key value) verified.envelope.fields
  exact congrArg (Option.map EnvelopeField.value) hfield

theorem get?_withValue_of_ne (verified : VerifiedEnvelope) {key other : String} (h : other ≠ key)
    (value : String) :
    (verified.withValue key value).get? other = verified.get? other :=
  congrArg (Option.map EnvelopeField.value)
    (findField?_withField_of_ne h verified.envelope.fields)

namespace Crypto.KeyRing

variable {keys : KeyRing} {sealed : String} {selfSigned : Bool} {verified : VerifiedEnvelope}
  {pairs : List (String × String)} {keyList : String}

theorem Accepts.isFieldKey (h : keys.Accepts sealed selfSigned verified pairs keyList)
    {key value : String} (hvalue : verified.get? key = some value) : IsFieldKey key := by
  obtain ⟨hunmarked, hline, htext⟩ := h.isLine
  rw [VerifiedEnvelope.get?, ReceivedEnvelope.get?, Option.map_eq_some_iff] at hvalue
  obtain ⟨field, hfield, -⟩ := hvalue
  obtain ⟨hmem, rfl⟩ := (findField?_eq_some_iff hline.nodup).1 hfield
  exact hline.isFieldKey hunmarked htext hmem

/-- A field that is not listed can have any value: the ticket is accepted with it. -/
theorem Accepts.withField (h : keys.Accepts sealed selfSigned verified pairs keyList)
    {key : String} (hkey : IsFieldKey key) (hsignature : key ≠ signatureKey)
    (hkeyList : key ≠ Envelope.keyListName) (hunlisted : key ∉ verified.signedKeys)
    (value : String) :
    keys.Accepts (lineText (GridAccess.withField (.escaped key value) verified.envelope.fields))
      selfSigned (verified.withValue key value) pairs keyList where
  parse := by
    obtain ⟨hunmarked, hline, htext⟩ := h.isLine
    exact parse_lineText_withField hunmarked hline htext hkey value
  format := rfl
  signedKeys := h.signedKeys
  listed := by
    rw [raw?_withValue_of_ne verified hkeyList.symm, h.listed]
  pairs_keys := h.pairs_keys
  raw := by
    intro pair hpair
    have hlisted : pair.1 ≠ key := by
      rintro rfl
      apply hunlisted
      rw [h.signedKeys, ← h.pairs_keys]
      exact List.mem_map_of_mem hpair
    rw [raw?_withValue_of_ne verified hlisted, h.raw pair hpair]
  signature := by
    -- Neither the signature nor what it covers is in the field, so the old signature is right.
    obtain ⟨encoded, signature, hencoded, hdecoded, hverify⟩ := h.signature
    refine ⟨encoded, signature, ?_, hdecoded, hverify⟩
    rw [raw?_withValue_of_ne verified hsignature.symm, hencoded]

end Crypto.KeyRing

/-! ## What follows from the signed bytes -/

/-- What is shown of an accepted ticket follows from the signed bytes: all accepted tickets with
these bytes show the same. -/
def IsDetermined {α : Type} (keys : KeyRing) (selfSigned : Bool) (verified : VerifiedEnvelope)
    (shown : VerifiedEnvelope → α) : Prop :=
  ∀ sealed other, keys.verify sealed selfSigned = .ok other →
    other.message? selfSigned = verified.message? selfSigned → shown other = shown verified

variable {keys : KeyRing} {sealed : String} {selfSigned : Bool} {verified : VerifiedEnvelope}

/-- An unlisted field of an accepted ticket can be given any value, and all else stays. -/
theorem exists_verify_withValue (h : keys.verify sealed selfSigned = .ok verified) {key : String}
    (hkey : IsFieldKey key) (hsignature : key ≠ signatureKey)
    (hkeyList : key ≠ Envelope.keyListName) (hunlisted : key ∉ verified.signedKeys)
    (value : String) :
    ∃ other, keys.verify other selfSigned = .ok (verified.withValue key value) ∧
      (verified.withValue key value).message? selfSigned = verified.message? selfSigned := by
  obtain ⟨pairs, keyList, haccepts⟩ := KeyRing.verify_eq_ok_iff.1 h
  have hlater := haccepts.withField hkey hsignature hkeyList hunlisted value
  exact ⟨_, KeyRing.verify_eq_ok_iff.2 ⟨_, _, hlater⟩, hlater.message?.trans haccepts.message?.symm⟩

/-- What is shown for two values of an unlisted field is the same if it follows from the signed
bytes. -/
theorem IsDetermined.eq_of_unlisted {α : Type} {shown : VerifiedEnvelope → α}
    (hshown : IsDetermined keys selfSigned verified shown)
    (h : keys.verify sealed selfSigned = .ok verified) {key : String} (hkey : IsFieldKey key)
    (hsignature : key ≠ signatureKey) (hkeyList : key ≠ Envelope.keyListName)
    (hunlisted : key ∉ verified.signedKeys) (first second : String) :
    shown (verified.withValue key first) = shown (verified.withValue key second) := by
  obtain ⟨one, hone, honeBytes⟩ :=
    exists_verify_withValue h hkey hsignature hkeyList hunlisted first
  obtain ⟨two, htwo, htwoBytes⟩ :=
    exists_verify_withValue h hkey hsignature hkeyList hunlisted second
  rw [hshown one _ hone honeBytes, hshown two _ htwo htwoBytes]

/-- The values of listed fields follow from the signed bytes. -/
theorem isDetermined_get?_of_mem (h : keys.verify sealed selfSigned = .ok verified) {key : String}
    (hlisted : key ∈ verified.signedKeys ∨ key = Envelope.keyListName) :
    IsDetermined keys selfSigned verified (·.get? key) := by
  intro otherSealed other hother hmessage
  obtain ⟨pairs, keyList, haccepts⟩ := KeyRing.verify_eq_ok_iff.1 h
  obtain ⟨otherPairs, otherList, hotherAccepts⟩ := KeyRing.verify_eq_ok_iff.1 hother
  obtain ⟨rfl, rfl⟩ := hotherAccepts.eq_of_message?_eq haccepts hmessage
  have hraw : other.envelope.raw? key = verified.envelope.raw? key := by
    rcases hlisted with hlisted | rfl
    · rw [haccepts.signedKeys, ← haccepts.pairs_keys] at hlisted
      obtain ⟨pair, hpair, rfl⟩ := List.mem_map.1 hlisted
      rw [hotherAccepts.raw pair hpair, haccepts.raw pair hpair]
    · rw [hotherAccepts.listed, haccepts.listed]
  show other.envelope.get? key = verified.envelope.get? key
  rw [ReceivedEnvelope.get?_eq_bind_raw? hotherAccepts.isLine.2.1,
    ReceivedEnvelope.get?_eq_bind_raw? haccepts.isLine.2.1, hraw]

/-- No value is shown for a key that fields cannot have. -/
theorem get?_eq_none_of_not_isFieldKey (h : keys.verify sealed selfSigned = .ok verified)
    {key : String} (hkey : ¬IsFieldKey key) : verified.get? key = none := by
  obtain ⟨pairs, keyList, haccepts⟩ := KeyRing.verify_eq_ok_iff.1 h
  cases hvalue : verified.get? key with
  | none => rfl
  | some value => exact absurd (haccepts.isFieldKey hvalue) hkey

/-- The value of a key follows from the signed bytes exactly if the key is listed, is that of the
list itself, or cannot be the key of a field. -/
theorem isDetermined_get?_iff (h : keys.verify sealed selfSigned = .ok verified) {key : String}
    (hsignature : key ≠ signatureKey) :
    IsDetermined keys selfSigned verified (·.get? key) ↔
      key ∈ verified.signedKeys ∨ key = Envelope.keyListName ∨ ¬IsFieldKey key := by
  constructor
  · intro hshown
    by_contra hfree
    simp only [not_or, not_not] at hfree
    obtain ⟨hunlisted, hkeyList, hkey⟩ := hfree
    have hsame := hshown.eq_of_unlisted h hkey hsignature hkeyList hunlisted "0" "1"
    simp only [get?_withValue_self] at hsame
    exact absurd hsame (by decide)
  · rintro (hlisted | hkeyList | hkey)
    · exact isDetermined_get?_of_mem h (Or.inl hlisted)
    · exact isDetermined_get?_of_mem h (Or.inr hkeyList)
    · intro other otherVerified hother _
      exact (get?_eq_none_of_not_isFieldKey hother hkey).trans
        (get?_eq_none_of_not_isFieldKey h hkey).symm

/-- Names that tickets give a meaning are usable keys, other than those of the list of keys and of
the signature. -/
theorem isFieldKey_name {name : String}
    (h : name ∈ "pfn" :: "expires" :: EnvelopeKey.canonical.map EnvelopeKey.name) :
    IsFieldKey name ∧ name ≠ signatureKey ∧ name ≠ Envelope.keyListName := by
  have hall : ∀ name ∈ "pfn" :: "expires" :: EnvelopeKey.canonical.map EnvelopeKey.name,
      name ≠ "" ∧ '=' ∉ name.toList ∧ '&' ∉ name.toList ∧ ' ' ∉ name.toList ∧ '<' ∉ name.toList ∧
        name ≠ signatureKey ∧ name ≠ Envelope.keyListName := by
    decide
  obtain ⟨hne, hequals, hamp, hspace, htag, hsignature, hkeyList⟩ := hall name h
  exact ⟨⟨hne, hequals, hamp, isUnmarked_of_not_mem hspace htag⟩, hsignature, hkeyList⟩

/-- What is shown for two values of a field with a meaning differs only if the field is listed, if
it follows from the signed bytes. -/
theorem IsDetermined.mem_of_ne {α : Type} {shown : VerifiedEnvelope → α}
    (hshown : IsDetermined keys selfSigned verified shown)
    (h : keys.verify sealed selfSigned = .ok verified) {name : String}
    (hname : name ∈ "pfn" :: "expires" :: EnvelopeKey.canonical.map EnvelopeKey.name)
    {first second : String}
    (hne : shown (verified.withValue name first) ≠ shown (verified.withValue name second)) :
    name ∈ verified.signedKeys := by
  by_contra hunlisted
  obtain ⟨hkey, hsignature, hkeyList⟩ := isFieldKey_name hname
  exact hne (hshown.eq_of_unlisted h hkey hsignature hkeyList hunlisted first second)

theorem access_withValue (verified : VerifiedEnvelope) (kind : AccessKind) :
    (verified.withValue "access" kind.name).access = .ok kind :=
  Envelope.access_eq_of_get?_eq (get?_withValue_self verified "access" kind.name)

theorem access_congr {other : VerifiedEnvelope} (h : other.get? "access" = verified.get? "access") :
    other.access = verified.access := by
  simp only [VerifiedEnvelope.get?] at h
  simp only [VerifiedEnvelope.access, ReceivedEnvelope.access, h]

theorem access_withValue_of_ne (verified : VerifiedEnvelope) {name : String} (h : name ≠ "access")
    (value : String) : (verified.withValue name value).access = verified.access :=
  access_congr (get?_withValue_of_ne verified h.symm value)

/-- What is read from one field with a meaning, and differs for two values of it, follows from the
signed bytes exactly if the field is listed. -/
theorem isDetermined_iff_of_get?_eq {α : Type} {shown : VerifiedEnvelope → α}
    (h : keys.verify sealed selfSigned = .ok verified) {name : String}
    (hname : name ∈ "pfn" :: "expires" :: EnvelopeKey.canonical.map EnvelopeKey.name)
    (hread : ∀ other, other.get? name = verified.get? name → shown other = shown verified)
    {first second : String}
    (hne : shown (verified.withValue name first) ≠ shown (verified.withValue name second)) :
    IsDetermined keys selfSigned verified shown ↔ name ∈ verified.signedKeys := by
  constructor
  · intro hshown
    exact hshown.mem_of_ne h hname hne
  · intro hlisted otherSealed other hother hmessage
    apply hread
    exact isDetermined_get?_of_mem h (Or.inl hlisted) otherSealed other hother hmessage

/-- The access follows from the signed bytes exactly if it is listed. -/
theorem isDetermined_access_iff (h : keys.verify sealed selfSigned = .ok verified) :
    IsDetermined keys selfSigned verified (·.access) ↔ "access" ∈ verified.signedKeys := by
  have hne : (verified.withValue "access" AccessKind.read.name).access ≠
      (verified.withValue "access" AccessKind.write.name).access := by
    rw [access_withValue, access_withValue]
    decide
  exact isDetermined_iff_of_get?_eq h (by decide) (fun _ hvalue => access_congr hvalue) hne

/-- The expiry follows from the signed bytes exactly if it is listed. -/
theorem isDetermined_expires_iff (h : keys.verify sealed selfSigned = .ok verified) :
    IsDetermined keys selfSigned verified (·.expires) ↔ "expires" ∈ verified.signedKeys := by
  have hexpires : ∀ time : UInt64,
      (verified.withValue "expires" (timeText time)).expires = some time := by
    intro time
    exact expires_eq_of_get?_eq (get?_withValue_self verified "expires" (timeText time))
  have hne : (verified.withValue "expires" (timeText 0)).expires ≠
      (verified.withValue "expires" (timeText 1)).expires := by
    rw [hexpires, hexpires]
    decide
  apply isDetermined_iff_of_get?_eq h (by decide) _ hne
  intro other hvalue
  rw [VerifiedEnvelope.expires, VerifiedEnvelope.expires, hvalue]

/-- A ticket whose access can be read describes an envelope, with the values of the ticket. -/
theorem exists_toEnvelope {access : AccessKind} (h : verified.access = .ok access) :
    ∃ envelope, verified.toEnvelope = .ok envelope ∧ envelope.access = access ∧
      envelope.storagePath = Envelope.receivedPath verified.envelope ∧
      ∀ key ∈ Envelope.valueKeys, envelope.get? key = verified.get? key.name := by
  let value? := fun key : EnvelopeKey => verified.envelope.get? key.name
  let start := Envelope.start access (Envelope.receivedPath verified.envelope)
  obtain ⟨haccess, hpath⟩ := Envelope.putAll_kept value? Envelope.valueKeys start
  refine ⟨_, Envelope.ofReceived_eq_ok_iff.2 ⟨access, h, rfl⟩, haccess, hpath, ?_⟩
  intro key hkey
  have hnone : start.get? key = none :=
    Envelope.get?_start_of_ne access _ (Envelope.ne_access_of_mem_valueKeys hkey)
  rw [Envelope.get?_putAll, if_pos hkey, hnone, Option.or_none]
  rfl

/-- The envelope follows from the values of its keys and of the path of the replica. -/
theorem toEnvelope_eq_of_get?_eq {other : VerifiedEnvelope}
    (haccess : other.access = verified.access)
    (hget : ∀ access, verified.access = .ok access →
      other.get? "pfn" = verified.get? "pfn" ∧
        ∀ key ∈ Envelope.valueKeys, other.get? key.name = verified.get? key.name) :
    other.toEnvelope = verified.toEnvelope := by
  change other.envelope.access = verified.envelope.access at haccess
  rw [VerifiedEnvelope.toEnvelope, VerifiedEnvelope.toEnvelope, Envelope.ofReceived,
    Envelope.ofReceived, haccess]
  cases hread : verified.envelope.access with
  | error e => rfl
  | ok access =>
    obtain ⟨hpfn, hvalues⟩ := hget access hread
    have hpath : Envelope.receivedPath other.envelope =
        Envelope.receivedPath verified.envelope := by
      have hxurl := hvalues .xurl (by decide)
      have hturl := hvalues .turl (by decide)
      simp only [VerifiedEnvelope.get?] at hpfn hxurl hturl
      rw [Envelope.receivedPath, Envelope.receivedPath, hpfn, hxurl, hturl]
    simp only [hpath]
    congr 1
    apply List.foldl_ext
    intro envelope key hkey
    exact congrArg (envelope.putOptional key) (hvalues key hkey)

/-- Tickets that describe one envelope grant one access, to one path, and agree on the values. -/
theorem eq_of_toEnvelope_eq {other : VerifiedEnvelope} {access otherAccess : AccessKind}
    (h : verified.access = .ok access) (hother : other.access = .ok otherAccess)
    (heq : other.toEnvelope = verified.toEnvelope) :
    otherAccess = access ∧
      Envelope.receivedPath other.envelope = Envelope.receivedPath verified.envelope ∧
      ∀ key ∈ Envelope.valueKeys, other.get? key.name = verified.get? key.name := by
  obtain ⟨envelope, henvelope, haccess, hpath, hvalues⟩ := exists_toEnvelope h
  obtain ⟨otherEnvelope, hotherEnvelope, hotherAccess, hotherPath, hotherValues⟩ :=
    exists_toEnvelope hother
  rw [henvelope, hotherEnvelope, Except.ok.injEq] at heq
  subst heq
  refine ⟨hotherAccess.symm.trans haccess, hotherPath.symm.trans hpath, ?_⟩
  intro key hkey
  exact (hotherValues key hkey).symm.trans (hvalues key hkey)

theorem toEnvelope_withValue_pfn_ne {access : AccessKind} (h : verified.access = .ok access)
    {first second : String} (hne : first ≠ second) :
    (verified.withValue "pfn" first).toEnvelope ≠ (verified.withValue "pfn" second).toEnvelope := by
  have hread : ∀ value, (verified.withValue "pfn" value).access = .ok access := by
    intro value
    rw [access_withValue_of_ne verified (by decide), h]
  have hpath : ∀ value,
      Envelope.receivedPath (verified.withValue "pfn" value).envelope = some value := by
    intro value
    have hvalue := get?_withValue_self verified "pfn" value
    rw [VerifiedEnvelope.get?] at hvalue
    rw [Envelope.receivedPath, hvalue]
  intro heq
  obtain ⟨-, hsame, -⟩ := eq_of_toEnvelope_eq (hread second) (hread first) heq
  rw [hpath, hpath, Option.some.injEq] at hsame
  exact hne hsame

theorem toEnvelope_withValue_name_ne {access : AccessKind} (h : verified.access = .ok access)
    {key : EnvelopeKey} (hkey : key ∈ Envelope.valueKeys) {first second : String}
    (hne : first ≠ second) : (verified.withValue key.name first).toEnvelope ≠
      (verified.withValue key.name second).toEnvelope := by
  have hname : key.name ≠ "access" := by
    intro heq
    exact Envelope.ne_access_of_mem_valueKeys hkey (EnvelopeKey.name_injective heq)
  have hread : ∀ value, (verified.withValue key.name value).access = .ok access := by
    intro value
    rw [access_withValue_of_ne verified hname, h]
  intro heq
  obtain ⟨-, -, hvalues⟩ := eq_of_toEnvelope_eq (hread second) (hread first) heq
  have hsame := hvalues key hkey
  rw [get?_withValue_self, get?_withValue_self, Option.some.injEq] at hsame
  exact hne hsame

/-- The envelope follows from the signed bytes exactly if the access is listed and, unless it cannot
be read, all other keys of envelopes and the path of the replica are listed as well. -/
theorem isDetermined_toEnvelope_iff (h : keys.verify sealed selfSigned = .ok verified) :
    IsDetermined keys selfSigned verified (·.toEnvelope) ↔
      "access" ∈ verified.signedKeys ∧ ∀ access, verified.access = .ok access →
        "pfn" ∈ verified.signedKeys ∧
          ∀ key ∈ Envelope.valueKeys, key.name ∈ verified.signedKeys := by
  constructor
  · intro hshown
    refine ⟨?_, ?_⟩
    · have hne : (verified.withValue "access" AccessKind.read.name).toEnvelope ≠
          (verified.withValue "access" AccessKind.write.name).toEnvelope := by
        intro heq
        cases (eq_of_toEnvelope_eq (access_withValue _ _) (access_withValue _ _) heq).1
      exact hshown.mem_of_ne h (by decide) hne
    · intro access haccess
      refine ⟨?_, ?_⟩
      · have hne := toEnvelope_withValue_pfn_ne haccess (by decide : "0" ≠ "1")
        exact hshown.mem_of_ne h (by decide) hne
      · intro key hkey
        have hne := toEnvelope_withValue_name_ne haccess hkey (by decide : "0" ≠ "1")
        have hmem : key.name ∈ EnvelopeKey.canonical.map EnvelopeKey.name :=
          List.mem_map_of_mem key.mem_canonical
        exact hshown.mem_of_ne h (by simp [hmem]) hne
  · rintro ⟨hlisted, hothers⟩ otherSealed other hother hmessage
    have hsame : ∀ {key : String}, key ∈ verified.signedKeys →
        other.get? key = verified.get? key := by
      intro key hkey
      exact isDetermined_get?_of_mem h (Or.inl hkey) otherSealed other hother hmessage
    apply toEnvelope_eq_of_get?_eq
    · exact (isDetermined_access_iff h).2 hlisted otherSealed other hother hmessage
    · intro access haccess
      obtain ⟨hpfn, hvalues⟩ := hothers access haccess
      refine ⟨hsame hpfn, ?_⟩
      intro key hkey
      exact hsame (hvalues key hkey)

/-- There is always a usable key that is not listed. -/
theorem exists_unlisted (listed : List String) :
    ∃ key, IsFieldKey key ∧ key ∉ listed ∧ key ≠ signatureKey ∧ key ≠ Envelope.keyListName := by
  let size := (listed.map fun name => name.toList.length).sum + 1
  let key := String.ofList (List.replicate size 'x')
  have hkey : key.toList = List.replicate size 'x' := String.toList_ofList
  have hchar : ∀ c ∈ key.toList, c = 'x' := by
    intro c hc
    rw [hkey] at hc
    exact List.eq_of_mem_replicate hc
  have hother : ∀ name : String, 's' ∈ name.toList → key ≠ name := by
    rintro name hmem rfl
    exact absurd (hchar _ hmem) (by decide)
  have hequals : '=' ∉ key.toList := fun hmem => absurd (hchar _ hmem) (by decide)
  have hamp : '&' ∉ key.toList := fun hmem => absurd (hchar _ hmem) (by decide)
  have hspace : ' ' ∉ key.toList := fun hmem => absurd (hchar _ hmem) (by decide)
  have htag : '<' ∉ key.toList := fun hmem => absurd (hchar _ hmem) (by decide)
  have hne : key ≠ "" := by
    intro heq
    rw [heq] at hkey
    cases hkey
  -- The key is longer than all listed ones together.
  refine ⟨key, ⟨hne, hequals, hamp, isUnmarked_of_not_mem hspace htag⟩, ?_, ?_, ?_⟩
  · intro hmem
    have hle : key.toList.length ≤ (listed.map fun name => name.toList.length).sum :=
      List.le_sum_of_mem (List.mem_map_of_mem hmem)
    rw [hkey, List.length_replicate] at hle
    omega
  · exact hother _ (by decide)
  · exact hother _ (by decide)

/-- What is shown of an accepted ticket follows from the signed bytes exactly as far as it is
listed: the value of a key, the access, the expiry, and the envelope. Any other field that a ticket
can have takes any value that its holder chooses, without a change to the signed bytes, to the list
of signed keys or to other values, and there always is such a field. -/
theorem shown_isDetermined_iff (h : keys.verify sealed selfSigned = .ok verified) :
    (∀ key, key ≠ signatureKey → (IsDetermined keys selfSigned verified (·.get? key) ↔
      key ∈ verified.signedKeys ∨ key = Envelope.keyListName ∨ ¬IsFieldKey key)) ∧
    (IsDetermined keys selfSigned verified (·.access) ↔ "access" ∈ verified.signedKeys) ∧
    (IsDetermined keys selfSigned verified (·.expires) ↔ "expires" ∈ verified.signedKeys) ∧
    (IsDetermined keys selfSigned verified (·.toEnvelope) ↔
      "access" ∈ verified.signedKeys ∧ ∀ access, verified.access = .ok access →
        "pfn" ∈ verified.signedKeys ∧
          ∀ key ∈ Envelope.valueKeys, key.name ∈ verified.signedKeys) ∧
    (∀ key value, IsFieldKey key → key ∉ verified.signedKeys → key ≠ signatureKey →
      key ≠ Envelope.keyListName → ∃ otherSealed other,
        keys.verify otherSealed selfSigned = .ok other ∧
        other.message? selfSigned = verified.message? selfSigned ∧
        other.signedKeys = verified.signedKeys ∧ other.get? key = some value ∧
        ∀ name, name ≠ key → other.get? name = verified.get? name) ∧
    ∃ key, IsFieldKey key ∧ key ∉ verified.signedKeys ∧ key ≠ signatureKey ∧
      key ≠ Envelope.keyListName := by
  refine ⟨?_, isDetermined_access_iff h, isDetermined_expires_iff h, isDetermined_toEnvelope_iff h,
    ?_, exists_unlisted verified.signedKeys⟩
  · intro key hsignature
    exact isDetermined_get?_iff h hsignature
  · intro key value hkey hunlisted hsignature hkeyList
    obtain ⟨otherSealed, hother, hmessage⟩ :=
      exists_verify_withValue h hkey hsignature hkeyList hunlisted value
    refine ⟨otherSealed, _, hother, hmessage, rfl, get?_withValue_self verified key value, ?_⟩
    intro name hname
    exact get?_withValue_of_ne verified hname value

theorem signedKeys_sample (signature : List UInt8) : (sampleVerified signature).signedKeys =
    ["turl", "access", "lfn", "guid", "size", "se", "hashord", "issuer", "issued", "expires"] :=
  rfl

theorem shown_isDetermined_iff_sample :
    ∃ sealed verified, mersenneRing.verify sealed true = .ok verified ∧
      IsDetermined mersenneRing true verified (·.access) ∧
      ¬IsDetermined mersenneRing true verified (·.toEnvelope) := by
  obtain ⟨sealed, signature, hverify, -⟩ := exists_verify_sample
  obtain ⟨-, haccess, -, henvelope, -, -⟩ := shown_isDetermined_iff hverify
  refine ⟨sealed, _, hverify, haccess.2 (by rw [signedKeys_sample]; decide), ?_⟩
  intro hdetermined
  have hread := access_verifiedTicket obtainable_sampleEnvelope.isCanonical
    sampleIssuer.settings.issuer 0 86400 signature
  obtain ⟨hpfn, -⟩ := (henvelope.1 hdetermined).2 _ hread
  rw [signedKeys_sample] at hpfn
  exact absurd hpfn (by decide)

/-- The sample ticket is accepted with another path of the replica as well, with the same signed
bytes. -/
theorem exists_verify_otherPath : ∃ sealed other signature,
    mersenneRing.verify sealed true = .ok (sampleVerified signature) ∧
      (sampleVerified signature).message? true = some (bytesOfChars
        (signedText sampleEnvelope sampleIssuer.settings.issuer 0 86400)) ∧
      mersenneRing.verify other true =
        .ok ((sampleVerified signature).withValue "pfn" "/data/other") ∧
      ((sampleVerified signature).withValue "pfn" "/data/other").message? true =
        (sampleVerified signature).message? true ∧
      "pfn" ∉ (sampleVerified signature).signedKeys := by
  obtain ⟨sealed, signature, hverify, hmessage⟩ := exists_verify_sample
  have hunlisted : "pfn" ∉ (sampleVerified signature).signedKeys := by
    rw [signedKeys_sample]
    decide
  obtain ⟨hkey, hsignature, hkeyList⟩ := isFieldKey_name (by decide : "pfn" ∈ _ :: _)
  obtain ⟨other, hother, hbytes⟩ :=
    exists_verify_withValue hverify hkey hsignature hkeyList hunlisted "/data/other"
  exact ⟨sealed, other, signature, hverify, hmessage, hother, hbytes, hunlisted⟩

/-- A ticket with another path of the replica is accepted, with the same signed bytes as the ticket
that was issued, although the path is not listed. It describes another envelope. -/
theorem unlisted_path_accepted :
    ∃ sealed other verified otherVerified, mersenneRing.verify sealed true = .ok verified ∧
      mersenneRing.verify other true = .ok otherVerified ∧
      otherVerified.message? true = verified.message? true ∧
      otherVerified.get? "pfn" = some "/data/other" ∧ "pfn" ∉ otherVerified.signedKeys ∧
      otherVerified.toEnvelope ≠ verified.toEnvelope := by
  obtain ⟨sealed, other, signature, hverify, -, hother, hmessage, hunlisted⟩ :=
    exists_verify_otherPath
  have hcanonical := obtainable_sampleEnvelope.isCanonical
  have hvalue := get?_withValue_self (sampleVerified signature) "pfn" "/data/other"
  refine ⟨sealed, other, _, _, hverify, hother, hmessage, hvalue, hunlisted, ?_⟩
  have hread : ((sampleVerified signature).withValue "pfn" "/data/other").access = .ok .read := by
    rw [access_withValue_of_ne _ (by decide)]
    exact access_verifiedTicket hcanonical _ _ _ _
  obtain ⟨envelope, henvelope, -, hpath, -⟩ := exists_toEnvelope hread
  have hchosen : envelope.storagePath = some "/data/other" := by
    rw [VerifiedEnvelope.get?] at hvalue
    rw [hpath, Envelope.receivedPath, hvalue]
  have hissued : sampleEnvelope.storagePath = some "/data/file" := by decide
  have htold := toEnvelope_verifiedTicket hcanonical sampleIssuer.settings.issuer 0 86400 signature
  rw [← sampleVerified] at htold
  intro heq
  rw [henvelope, htold, Except.ok.injEq] at heq
  rw [heq, deliveredPath_sample, hissued] at hchosen
  exact absurd hchosen (by decide)

end GridAccess
