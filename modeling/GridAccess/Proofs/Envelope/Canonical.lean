import GridAccess.Catalogue.Ascending
import GridAccess.Envelope.Grant

/-!
# Envelopes in canonical order

Every envelope that is built or received has its values in the order of their keys, without a key
that stands twice, and says which access it grants. Such an envelope is determined by its values.

## Main definitions

- `Envelope.IsCanonical` — the values stand in order, and the access is among them
- `Envelope.Obtainable` — the envelopes that can be had: built ones and received ones
- `Envelope.deliveredPath` — the path of the replica that is left of an envelope on the wire

## Main statements

- `Envelope.Obtainable.isCanonical` — the order holds of all of them
- `Envelope.IsCanonical.ofReceived_eq` — an envelope is read back from its values
- `Envelope.get?_build` — what a built envelope says
- `Envelope.deliveredPath_build` — the path is lost exactly for envelopes with a location by path
-/

namespace GridAccess

namespace Envelope

/-- The values stand in the order of their keys, and one of them names the access. -/
structure IsCanonical (envelope : Envelope) : Prop where
  ascending : envelope.fields.Pairwise fun a b => a.1.rank < b.1.rank
  access : envelope.get? .access = some envelope.access.name

/-- The envelopes that can be had. -/
inductive Obtainable : Envelope → Prop where
  | build (access : AccessKind) (target : EnvelopeTarget) (anchor : Option ArchiveAnchor) :
      Obtainable (Envelope.build access target anchor)
  | received {text : String} {received : ReceivedEnvelope} {envelope : Envelope}
      (hparse : ReceivedEnvelope.parse text = .ok received)
      (henvelope : ofReceived received = .ok envelope) : Obtainable envelope

variable {envelope : Envelope}

/-! ## Setting values -/

theorem mem_putField {key : EnvelopeKey} {value : String} {fields : List (EnvelopeKey × String)}
    {field : EnvelopeKey × String} (h : field ∈ putField key value fields) :
    field = (key, value) ∨ field ∈ fields := by
  induction fields with
  | nil => exact Or.inl (List.mem_singleton.1 h)
  | cons first rest ih =>
    rw [putField] at h
    split at h
    · exact (List.mem_cons.1 h)
    · split at h
      · rcases List.mem_cons.1 h with h | h
        · exact Or.inl h
        · exact Or.inr (List.mem_cons_of_mem _ h)
      · rcases List.mem_cons.1 h with h | h
        · exact Or.inr (h ▸ List.mem_cons_self)
        · rcases ih h with h | h
          · exact Or.inl h
          · exact Or.inr (List.mem_cons_of_mem _ h)

theorem ascending_putField (key : EnvelopeKey) (value : String)
    {fields : List (EnvelopeKey × String)} (h : fields.Pairwise fun a b => a.1.rank < b.1.rank) :
    (putField key value fields).Pairwise fun a b => a.1.rank < b.1.rank := by
  induction fields with
  | nil => exact List.pairwise_singleton _ _
  | cons first rest ih =>
    rw [List.pairwise_cons] at h
    obtain ⟨hfirst, hrest⟩ := h
    rw [putField]
    split
    · next hlt =>
      refine List.pairwise_cons.2 ⟨?_, List.pairwise_cons.2 ⟨hfirst, hrest⟩⟩
      intro field hfield
      rcases List.mem_cons.1 hfield with rfl | hfield
      · exact hlt
      · exact Nat.lt_trans hlt (hfirst field hfield)
    · next hle =>
      split
      · next heq =>
        refine List.pairwise_cons.2 ⟨?_, hrest⟩
        intro field hfield
        exact heq ▸ hfirst field hfield
      · next hne =>
        refine List.pairwise_cons.2 ⟨?_, ih hrest⟩
        intro field hfield
        rcases mem_putField hfield with rfl | hfield
        · have hrank : first.1.rank ≠ key.rank :=
            fun heq => hne (EnvelopeKey.rank_injective heq.symm)
          show first.1.rank < key.rank
          omega
        · exact hfirst field hfield

theorem isCanonical_start (access : AccessKind) (storagePath : Option String) :
    (start access storagePath).IsCanonical where
  ascending := List.pairwise_singleton _ _
  access := rfl

theorem get?_start_of_ne (access : AccessKind) (storagePath : Option String) {key : EnvelopeKey}
    (h : key ≠ .access) : (start access storagePath).get? key = none := by
  have hfalse : (key == EnvelopeKey.access) = false := beq_eq_false_iff_ne.2 h
  simp [start, get?, List.lookup_cons, hfalse]

/-- Setting another value than that of the access keeps an envelope canonical. -/
theorem IsCanonical.put (h : envelope.IsCanonical) {key : EnvelopeKey} (hkey : key ≠ .access)
    (value : String) : (envelope.put key value).IsCanonical where
  ascending := ascending_putField key value h.ascending
  access := by
    rw [get?_put_of_ne envelope hkey.symm, h.access]
    rfl

theorem IsCanonical.putOptional (h : envelope.IsCanonical) {key : EnvelopeKey}
    (hkey : key ≠ .access) (value : Option String) :
    (envelope.putOptional key value).IsCanonical := by
  cases value with
  | none => exact h
  | some value => exact h.put hkey value

theorem get?_putOptional_of_ne (envelope : Envelope) {key other : EnvelopeKey} (h : other ≠ key)
    (value : Option String) :
    (envelope.putOptional key value).get? other = envelope.get? other := by
  cases value with
  | none => rfl
  | some value => exact get?_put_of_ne envelope h value

theorem get?_putOptional_self (envelope : Envelope) (key : EnvelopeKey) (value : Option String) :
    (envelope.putOptional key value).get? key = value.or (envelope.get? key) := by
  cases value with
  | none => rfl
  | some value => exact get?_put_self envelope key value

theorem access_putOptional (envelope : Envelope) (key : EnvelopeKey) (value : Option String) :
    (envelope.putOptional key value).access = envelope.access := by
  cases value <;> rfl

theorem storagePath_putOptional (envelope : Envelope) (key : EnvelopeKey) (value : Option String) :
    (envelope.putOptional key value).storagePath = envelope.storagePath := by
  cases value <;> rfl

/-! ## Obtainable envelopes -/

/-- The values of a list of keys, set one after the other. -/
def putAll (value? : EnvelopeKey → Option String) (keys : List EnvelopeKey) (envelope : Envelope) :
    Envelope :=
  keys.foldl (fun envelope key => envelope.putOptional key (value? key)) envelope

variable {value? : EnvelopeKey → Option String} {keys : List EnvelopeKey}

theorem putAll_kept (value? : EnvelopeKey → Option String) (keys : List EnvelopeKey)
    (envelope : Envelope) :
    (putAll value? keys envelope).access = envelope.access ∧
      (putAll value? keys envelope).storagePath = envelope.storagePath := by
  induction keys generalizing envelope with
  | nil => exact ⟨rfl, rfl⟩
  | cons key keys ih =>
    obtain ⟨haccess, hpath⟩ := ih (envelope.putOptional key (value? key))
    refine ⟨haccess.trans ?_, hpath.trans ?_⟩
    · exact access_putOptional envelope key (value? key)
    · exact storagePath_putOptional envelope key (value? key)

theorem IsCanonical.putAll (h : envelope.IsCanonical) (hkeys : ∀ key ∈ keys, key ≠ .access) :
    (putAll value? keys envelope).IsCanonical := by
  induction keys generalizing envelope with
  | nil => exact h
  | cons key keys ih =>
    apply ih (h.putOptional (hkeys key (by simp)) _)
    intro other hother
    exact hkeys other (List.mem_cons_of_mem _ hother)

/-- The values that were set are found, and the others stay. -/
theorem get?_putAll (value? : EnvelopeKey → Option String) (keys : List EnvelopeKey)
    (envelope : Envelope) (key : EnvelopeKey) :
    (putAll value? keys envelope).get? key =
      if key ∈ keys then (value? key).or (envelope.get? key) else envelope.get? key := by
  induction keys generalizing envelope with
  | nil => rfl
  | cons first keys ih =>
    have hstep : Envelope.putAll value? (first :: keys) envelope =
        Envelope.putAll value? keys (envelope.putOptional first (value? first)) := rfl
    rw [hstep, ih]
    by_cases heq : key = first
    · subst heq
      rw [get?_putOptional_self, ← Option.or_assoc, Option.or_self]
      simp
    · rw [get?_putOptional_of_ne envelope heq]
      simp [heq]

/-- The envelope that a received text describes, if it says which access is granted. -/
theorem ofReceived_eq_ok_iff {received : ReceivedEnvelope} :
    ofReceived received = .ok envelope ↔
      ∃ access, received.access = .ok access ∧
        envelope = putAll (fun key => received.get? key.name) valueKeys
          (start access (receivedPath received)) := by
  rw [ofReceived]
  cases received.access with
  | error e => simp
  | ok access => simp [putAll, eq_comm]

theorem ne_access_of_mem_valueKeys {key : EnvelopeKey} (h : key ∈ valueKeys) : key ≠ .access := by
  simpa using (List.mem_filter.1 h).2

theorem isCanonical_build (access : AccessKind) (target : EnvelopeTarget)
    (anchor : Option ArchiveAnchor) : (build access target anchor).IsCanonical :=
  (isCanonical_start access _)
    |>.put (by decide : EnvelopeKey.turl ≠ .access) _
    |>.putOptional (by decide : EnvelopeKey.xurl ≠ .access) _
    |>.put (by decide : EnvelopeKey.lfn ≠ .access) _
    |>.put (by decide : EnvelopeKey.guid ≠ .access) _
    |>.putOptional (by decide : EnvelopeKey.zguid ≠ .access) _
    |>.put (by decide : EnvelopeKey.size ≠ .access) _
    |>.putOptional (by decide : EnvelopeKey.md5 ≠ .access) _
    |>.put (by decide : EnvelopeKey.se ≠ .access) _

theorem Obtainable.isCanonical (h : envelope.Obtainable) : envelope.IsCanonical := by
  cases h with
  | build access target anchor => exact isCanonical_build access target anchor
  | received hparse henvelope =>
    obtain ⟨access, -, rfl⟩ := ofReceived_eq_ok_iff.1 henvelope
    apply (isCanonical_start access _).putAll
    intro key hkey
    exact ne_access_of_mem_valueKeys hkey

/-! ## Values of canonical envelopes -/

theorem IsCanonical.nodup_keys (h : envelope.IsCanonical) : envelope.keys.Nodup := by
  rw [keys, List.Nodup, List.pairwise_map]
  apply h.ascending.imp
  intro a b hlt heq
  rw [heq] at hlt
  exact Nat.lt_irrefl _ hlt

theorem IsCanonical.nodup_names (h : envelope.IsCanonical) :
    (envelope.pairs.map Prod.fst).Nodup := by
  rw [pairs, List.map_map, List.Nodup, List.pairwise_map]
  apply h.ascending.imp
  intro a b hlt heq
  have hkey : a.1 = b.1 := EnvelopeKey.name_injective heq
  rw [hkey] at hlt
  exact Nat.lt_irrefl _ hlt

theorem IsCanonical.get?_eq_some_iff (h : envelope.IsCanonical) {key : EnvelopeKey}
    {value : String} : envelope.get? key = some value ↔ (key, value) ∈ envelope.fields :=
  Ascending.lookup_eq_some_iff h.nodup_keys

/-- A canonical envelope is determined by its values. -/
theorem IsCanonical.eq_of_get?_eq {other : Envelope} (h : envelope.IsCanonical)
    (hother : other.IsCanonical) (haccess : envelope.access = other.access)
    (hpath : envelope.storagePath = other.storagePath)
    (hget : ∀ key, envelope.get? key = other.get? key) : envelope = other := by
  have hfields : envelope.fields = other.fields := by
    apply Ascending.eq_of_mem_iff h.ascending hother.ascending
    rintro ⟨key, value⟩
    rw [← h.get?_eq_some_iff, ← hother.get?_eq_some_iff, hget]
  cases envelope
  cases other
  simp only [Envelope.mk.injEq]
  exact ⟨haccess, hfields, hpath⟩

/-- The values of a canonical envelope, one for each key that has one, in the order of all keys. -/
theorem IsCanonical.pairs_eq (h : envelope.IsCanonical) :
    envelope.pairs = envelope.elementsOf EnvelopeKey.canonical := by
  let valued := EnvelopeKey.canonical.filterMap fun key =>
    (envelope.get? key).map fun value => (key, value)
  have hvalued : ∀ key value, (key, value) ∈ valued ↔ envelope.get? key = some value := by
    intro key value
    simp only [valued, List.mem_filterMap, Option.map_eq_some_iff, Prod.mk.injEq]
    constructor
    · rintro ⟨_, -, _, hvalue, rfl, rfl⟩
      exact hvalue
    · intro hvalue
      exact ⟨key, key.mem_canonical, value, hvalue, rfl, rfl⟩
  have hascending : valued.Pairwise fun a b => a.1.rank < b.1.rank := by
    have hcanonical : EnvelopeKey.canonical.Pairwise fun a b => a.rank < b.rank := by decide
    refine hcanonical.filterMap _ ?_
    intro a b hlt field hfield other hother
    obtain ⟨-, -, rfl⟩ := Option.map_eq_some_iff.1 hfield
    obtain ⟨-, -, rfl⟩ := Option.map_eq_some_iff.1 hother
    exact hlt
  have hfields : envelope.fields = valued := by
    apply Ascending.eq_of_mem_iff h.ascending hascending
    rintro ⟨key, value⟩
    rw [hvalued, h.get?_eq_some_iff]
  rw [pairs, hfields, elementsOf, List.map_filterMap]
  simp only [Option.map_map]
  rfl

theorem access_eq_of_get?_eq {received : ReceivedEnvelope} {kind : AccessKind}
    (h : received.get? "access" = some kind.name) : received.access = .ok kind := by
  simp only [ReceivedEnvelope.access, h, AccessKind.parse_name]

/-- A received text with the access and the values of a canonical envelope describes that envelope,
up to the path of the replica. -/
theorem IsCanonical.ofReceived_eq (h : envelope.IsCanonical) {received : ReceivedEnvelope}
    (haccess : received.access = .ok envelope.access)
    (hget : ∀ key ≠ .access, received.get? key.name = envelope.get? key) :
    ofReceived received = .ok { envelope with storagePath := receivedPath received } := by
  let rebuilt := Envelope.putAll (fun key => received.get? key.name) valueKeys
    (start envelope.access (receivedPath received))
  have hcanonical : rebuilt.IsCanonical := by
    apply (isCanonical_start _ _).putAll
    intro key hkey
    exact ne_access_of_mem_valueKeys hkey
  have hkept := putAll_kept (fun key => received.get? key.name) valueKeys
    (start envelope.access (receivedPath received))
  -- The access is set at the start, and every other value is taken from the text.
  have hvalues : ∀ key, rebuilt.get? key = envelope.get? key := by
    intro key
    by_cases hkey : key = .access
    · rw [hkey, h.access, hcanonical.access, hkept.1]
      rfl
    · have hmem : key ∈ valueKeys := List.mem_filter.2 ⟨key.mem_canonical, by simpa using hkey⟩
      rw [get?_putAll, if_pos hmem, get?_start_of_ne _ _ hkey, Option.or_none, hget key hkey]
  have hstored : ({ envelope with storagePath := receivedPath received } : Envelope).IsCanonical :=
    ⟨h.ascending, h.access⟩
  refine ofReceived_eq_ok_iff.2 ⟨envelope.access, haccess, ?_⟩
  apply hstored.eq_of_get?_eq hcanonical
  · exact hkept.1.symm
  · exact hkept.2.symm
  · intro key
    exact (hvalues key).symm

/-- The values of an envelope that was received are those of the text. -/
theorem get?_of_ofReceived_eq {received : ReceivedEnvelope}
    (h : ofReceived received = .ok envelope) {key : EnvelopeKey} (hkey : key ≠ .access) :
    envelope.get? key = received.get? key.name := by
  obtain ⟨access, -, rfl⟩ := ofReceived_eq_ok_iff.1 h
  have hmem : key ∈ valueKeys := List.mem_filter.2 ⟨key.mem_canonical, by simpa using hkey⟩
  rw [get?_putAll, if_pos hmem, get?_start_of_ne _ _ hkey, Option.or_none]

/-! ## The path of the replica -/

/-- The path of the replica as the values of an envelope tell it, since the line has no field for
it. -/
def deliveredPath (envelope : Envelope) : Option String :=
  match envelope.get? .xurl with
  | some _ => none
  | none => (envelope.get? .turl).map fun location =>
      String.ofList (GridAccess.storagePath location.toList)

/-- Without a field for it, the path of the replica is the one that the values tell. -/
theorem receivedPath_eq_deliveredPath {received : ReceivedEnvelope}
    (hpath : received.get? "pfn" = none)
    (hget : ∀ key ≠ .access, received.get? key.name = envelope.get? key) :
    receivedPath received = envelope.deliveredPath := by
  have hxurl := hget .xurl (by decide)
  have hturl := hget .turl (by decide)
  cases hlocation : envelope.get? .xurl with
  | none => simp only [receivedPath, deliveredPath, hpath, hxurl, hturl, hlocation]
  | some _ => simp only [receivedPath, deliveredPath, hpath, hxurl, hlocation]

/-- What follows a hash sign is no part of the path. -/
theorem storagePath_append_anchor (location anchor : List Char) :
    GridAccess.storagePath (location ++ '#' :: anchor) = GridAccess.storagePath location := by
  have hanchor : withoutAnchor (location ++ '#' :: anchor) = withoutAnchor location := by
    rw [withoutAnchor, withoutAnchor]
    induction location with
    | nil => rfl
    | cons c location ih =>
      rw [List.cons_append, List.takeWhile_cons, List.takeWhile_cons, ih]
  simp only [GridAccess.storagePath, hanchor]

theorem access_build (access : AccessKind) (target : EnvelopeTarget)
    (anchor : Option ArchiveAnchor) : (build access target anchor).access = access := by
  simp only [build, put, access_putOptional, start]

/-- The values of a built envelope. -/
theorem get?_build (access : AccessKind) (target : EnvelopeTarget) (anchor : Option ArchiveAnchor)
    (key : EnvelopeKey) :
    (build access target anchor).get? key =
      match key with
      | .turl => some (target.transferLocation anchor)
      | .xurl => target.pathLocation? anchor
      | .access => some access.name
      | .lfn => some (((target.namedPath anchor).map LogicalPath.text).getD LogicalPath.noName)
      | .guid => some target.file.guid.text
      | .zguid => anchor.map fun anchor => anchor.memberGuid.text
      | .size => some (String.ofList (Text.Decimal.digits target.file.size.toNat))
      | .md5 => target.file.md5
      | .se => some (elementAlias target.element.name) := by
  have hstart : ∀ key ≠ .access, ∀ path, (start access path).get? key = none :=
    fun key hkey path => get?_start_of_ne access path hkey
  cases key with
  | access => rw [(isCanonical_build access target anchor).access, access_build]
  | _ =>
    simp (disch := decide) only [build, get?_put_self, get?_put_of_ne, get?_putOptional_self,
      get?_putOptional_of_ne, hstart, Option.or_none]

theorem storagePath_build (access : AccessKind) (target : EnvelopeTarget)
    (anchor : Option ArchiveAnchor) :
    (build access target anchor).storagePath =
      some (String.ofList (GridAccess.storagePath target.replica.location.toList)) := by
  simp only [build, put, storagePath_putOptional, start]

/-- The path of the replica is left of a built envelope, unless it has a location by path. -/
theorem deliveredPath_build (access : AccessKind) (target : EnvelopeTarget)
    (anchor : Option ArchiveAnchor) :
    (build access target anchor).deliveredPath =
      if ((build access target anchor).get? .xurl).isSome then none
      else (build access target anchor).storagePath := by
  -- Without a location by path, the transfer location is the stored one, perhaps with an anchor.
  simp only [deliveredPath, get?_build, storagePath_build]
  cases hpath : target.pathLocation? anchor with
  | some location => rfl
  | none =>
    cases anchor with
    | none => simp [EnvelopeTarget.transferLocation, hpath]
    | some anchor => simp [EnvelopeTarget.transferLocation, hpath, storagePath_append_anchor]

/-- An obtainable envelope without the path of the replica does not tell it by its values either. -/
theorem Obtainable.deliveredPath_eq_none (h : envelope.Obtainable)
    (hpath : envelope.storagePath = none) : envelope.deliveredPath = none := by
  cases h with
  | build access target anchor =>
    rw [storagePath_build] at hpath
    cases hpath
  | @received text received _ hparse henvelope =>
    have hget : ∀ key ≠ .access, received.get? key.name = envelope.get? key :=
      fun key hkey => (get?_of_ofReceived_eq henvelope hkey).symm
    obtain ⟨access, -, hputAll⟩ := ofReceived_eq_ok_iff.1 henvelope
    have hreceived : receivedPath received = none := by
      rw [← hpath, hputAll, (putAll_kept _ _ _).2]
      rfl
    have hpfn : received.get? "pfn" = none := by
      rw [receivedPath] at hreceived
      split at hreceived
      · cases hreceived
      · next hnone => exact hnone
    rw [← receivedPath_eq_deliveredPath hpfn hget, hreceived]

end Envelope

end GridAccess
