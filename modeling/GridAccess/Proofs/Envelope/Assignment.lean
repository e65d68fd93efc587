import GridAccess.Proofs.Envelope.Place
import GridAccess.Proofs.Ticket.Form

/-!
# Envelopes by assignments

Every envelope starts with its access and gets its other values by assignments, one after the other.
Whatever these are, the values stand in canonical order, each with the last value that was assigned
to its key, and assignments to different keys can change places. The list of keys and the line of the
envelope follow the same order.

## Main definitions

- `Envelope.assign`, `Envelope.assignSearching` — an envelope with values set one after the other, in
  order or at the place that a search finds
- `Envelope.lastValue?` — the last value assigned to a key
- `Envelope.Reorders` — assignments in another order that keeps those to each key in theirs
- `Envelope.IsAssigned` — the envelopes that assignments make
- `Envelope.IsOrdered` — an envelope whose values, list of keys and line stand in one order

## Main statements

- `Envelope.IsCanonical.assign` — assignments keep the order, since each of them does
- `Envelope.get?_assign` — what assignments leave for a key
- `Envelope.IsCanonical.assignSearching_eq` — searching for places changes nothing
- `Envelope.Reorders.assign_eq` — assignments to different keys can change places
- `Envelope.Obtainable.isAssigned` — built and received envelopes are made by assignments
- `Envelope.IsCanonical.isOrdered` — the list of keys and the line follow the order of the values
- `Envelope.assigned_in_order` — all of this, for every envelope that can be had
-/

namespace GridAccess

open Text

namespace Envelope

/-- An envelope with values set one after the other. -/
def assign (envelope : Envelope) (assignments : List (EnvelopeKey × String)) : Envelope :=
  assignments.foldl (fun envelope entry => envelope.put entry.1 entry.2) envelope

/-- An envelope with values set one after the other, each at the place that a search finds. -/
def assignSearching (search : EnvelopeKey → List (EnvelopeKey × String) → Place)
    (envelope : Envelope) (assignments : List (EnvelopeKey × String)) : Envelope :=
  assignments.foldl (fun envelope entry => { envelope with
    fields := putAt entry.1 entry.2 envelope.fields (search entry.1 envelope.fields) }) envelope

/-- The assignments to a key, in their order. -/
def assignmentsTo (key : EnvelopeKey) (assignments : List (EnvelopeKey × String)) :
    List (EnvelopeKey × String) :=
  assignments.filter fun entry => entry.1 = key

/-- The last value assigned to a key. -/
def lastValue? (assignments : List (EnvelopeKey × String)) (key : EnvelopeKey) : Option String :=
  (assignmentsTo key assignments).getLast?.map Prod.snd

/-- Assignments in another order that keeps those to each key in theirs. -/
def Reorders (assignments others : List (EnvelopeKey × String)) : Prop :=
  ∀ key, assignmentsTo key assignments = assignmentsTo key others

/-- No assignment is to the access, which an envelope has from the start. -/
def KeepsAccess (assignments : List (EnvelopeKey × String)) : Prop :=
  ∀ entry ∈ assignments, entry.1 ≠ .access

instance (assignments : List (EnvelopeKey × String)) : Decidable (KeepsAccess assignments) :=
  inferInstanceAs (Decidable (∀ entry ∈ assignments, entry.1 ≠ .access))

/-- An envelope that assignments make. -/
def IsAssigned (envelope : Envelope) : Prop :=
  ∃ access path assignments, KeepsAccess assignments ∧
    envelope = (start access path).assign assignments

variable {envelope : Envelope} {assignments others : List (EnvelopeKey × String)}

/-! ## What assignments leave -/

theorem assign_append (envelope : Envelope) (assignments others : List (EnvelopeKey × String)) :
    envelope.assign (assignments ++ others) = (envelope.assign assignments).assign others :=
  List.foldl_append

theorem keepsAccess_append :
    KeepsAccess (assignments ++ others) ↔ KeepsAccess assignments ∧ KeepsAccess others :=
  List.forall_mem_append

/-- Every assignment keeps the order, so all of them do. -/
theorem IsCanonical.assign (h : envelope.IsCanonical) (hkeeps : KeepsAccess assignments) :
    (envelope.assign assignments).IsCanonical := by
  induction assignments generalizing envelope with
  | nil => exact h
  | cons entry rest ih =>
    obtain ⟨hentry, hrest⟩ := List.forall_mem_cons.1 hkeeps
    exact ih (h.put hentry entry.2) hrest

theorem assign_kept (envelope : Envelope) (assignments : List (EnvelopeKey × String)) :
    (envelope.assign assignments).access = envelope.access ∧
      (envelope.assign assignments).storagePath = envelope.storagePath := by
  induction assignments generalizing envelope with
  | nil => exact ⟨rfl, rfl⟩
  | cons entry rest ih => exact ih (envelope.put entry.1 entry.2)

/-- An assignment counts if no later one is to the same key. -/
theorem lastValue?_cons (entry : EnvelopeKey × String) (rest : List (EnvelopeKey × String))
    (key : EnvelopeKey) :
    lastValue? (entry :: rest) key =
      (lastValue? rest key).or (if entry.1 = key then some entry.2 else none) := by
  by_cases hkey : entry.1 = key
  · rw [lastValue?, assignmentsTo, List.filter_cons_of_pos (by simpa using hkey),
      List.getLast?_cons, if_pos hkey, lastValue?, assignmentsTo]
    cases (rest.filter fun entry => entry.1 = key).getLast? <;> rfl
  · rw [lastValue?, assignmentsTo, List.filter_cons_of_neg (by simpa using hkey), if_neg hkey,
      Option.or_none]
    rfl

/-- Assignments leave the last value for every key to which one is, and the old value else. -/
theorem get?_assign (envelope : Envelope) (assignments : List (EnvelopeKey × String))
    (key : EnvelopeKey) :
    (envelope.assign assignments).get? key =
      (lastValue? assignments key).or (envelope.get? key) := by
  induction assignments generalizing envelope with
  | nil => rfl
  | cons entry rest ih =>
    have hstep : envelope.assign (entry :: rest) = (envelope.put entry.1 entry.2).assign rest := rfl
    rw [hstep, ih, lastValue?_cons, Option.or_assoc]
    by_cases hkey : entry.1 = key
    · rw [if_pos hkey, ← hkey, get?_put_self, Option.some_or]
    · rw [if_neg hkey, get?_put_of_ne envelope (Ne.symm hkey), Option.none_or]

/-- Where the values stand in order, a search finds the places in which they are put. -/
theorem IsCanonical.assignSearching_eq (h : envelope.IsCanonical)
    (hkeeps : KeepsAccess assignments)
    {search : EnvelopeKey → List (EnvelopeKey × String) → Place} (hsearch : IsSearch search) :
    assignSearching search envelope assignments = envelope.assign assignments := by
  induction assignments generalizing envelope with
  | nil => rfl
  | cons entry rest ih =>
    obtain ⟨hentry, hrest⟩ := List.forall_mem_cons.1 hkeeps
    have hplace := hsearch entry.1 envelope.fields h.ascending
    have hput := putAt_eq_putField h.ascending hplace entry.2
    rw [assignSearching, List.foldl_cons, hput]
    exact ih (h.put hentry entry.2) hrest

/-! ## The order of assignments -/

theorem Reorders.keepsAccess (h : Reorders assignments others) (hkeeps : KeepsAccess assignments) :
    KeepsAccess others := by
  intro entry hentry haccess
  have hmem : entry ∈ assignmentsTo .access others := List.mem_filter.2 ⟨hentry, by simpa⟩
  rw [← h] at hmem
  exact hkeeps entry (List.mem_filter.1 hmem).1 haccess

/-- Assignments to different keys can change places. -/
theorem Reorders.assign_eq (h : Reorders assignments others) (henvelope : envelope.IsCanonical)
    (hkeeps : KeepsAccess assignments) :
    envelope.assign others = envelope.assign assignments := by
  have hkept := assign_kept envelope assignments
  have hkeptOthers := assign_kept envelope others
  apply (henvelope.assign (h.keepsAccess hkeeps)).eq_of_get?_eq (henvelope.assign hkeeps)
  · exact hkeptOthers.1.trans hkept.1.symm
  · exact hkeptOthers.2.trans hkept.2.symm
  · intro key
    rw [get?_assign, get?_assign, lastValue?, lastValue?, h key]

/-- If no two assignments are to one key, every order of them is such another order. -/
theorem reorders_of_perm (h : assignments.Perm others) (hnodup : (assignments.map Prod.fst).Nodup) :
    Reorders assignments others := by
  have hnodupOthers : (others.map Prod.fst).Nodup := (h.map Prod.fst).nodup_iff.1 hnodup
  have hpairwise : ∀ {entries : List (EnvelopeKey × String)}, (entries.map Prod.fst).Nodup →
      ∀ key, (assignmentsTo key entries).Pairwise fun a b => a.1 ≠ b.1 :=
    fun hkeys key => (List.pairwise_map.1 hkeys).sublist List.filter_sublist
  intro key
  refine List.Perm.eq_of_pairwise ?_ (hpairwise hnodup key) (hpairwise hnodupOthers key)
    (h.filter _)
  intro a b ha hb hne _
  have hsame : ∀ {entry entries}, entry ∈ assignmentsTo key entries → entry.1 = key :=
    fun hentry => by simpa using (List.mem_filter.1 hentry).2
  exact absurd ((hsame ha).trans (hsame hb).symm) hne

/-! ## Obtainable envelopes -/

theorem isAssigned_start (access : AccessKind) (path : Option String) :
    (start access path).IsAssigned :=
  ⟨access, path, [], List.forall_mem_nil _, rfl⟩

theorem IsAssigned.put (h : envelope.IsAssigned) {key : EnvelopeKey} (hkey : key ≠ .access)
    (value : String) : (envelope.put key value).IsAssigned := by
  obtain ⟨access, path, assignments, hkeeps, rfl⟩ := h
  refine ⟨access, path, assignments ++ [(key, value)], ?_, ?_⟩
  · exact keepsAccess_append.2 ⟨hkeeps, List.forall_mem_singleton.2 hkey⟩
  · rw [assign_append]
    rfl

theorem IsAssigned.putOptional (h : envelope.IsAssigned) {key : EnvelopeKey} (hkey : key ≠ .access)
    (value : Option String) : (envelope.putOptional key value).IsAssigned := by
  cases value with
  | none => exact h
  | some value => exact h.put hkey value

theorem IsAssigned.putAll (h : envelope.IsAssigned) {value? : EnvelopeKey → Option String}
    {keys : List EnvelopeKey} (hkeys : ∀ key ∈ keys, key ≠ .access) :
    (putAll value? keys envelope).IsAssigned := by
  induction keys generalizing envelope with
  | nil => exact h
  | cons key keys ih =>
    obtain ⟨hkey, hrest⟩ := List.forall_mem_cons.1 hkeys
    exact ih (h.putOptional hkey _) hrest

theorem isAssigned_build (access : AccessKind) (target : EnvelopeTarget)
    (anchor : Option ArchiveAnchor) : (build access target anchor).IsAssigned :=
  (isAssigned_start access _)
    |>.put (by decide : EnvelopeKey.turl ≠ .access) _
    |>.putOptional (by decide : EnvelopeKey.xurl ≠ .access) _
    |>.put (by decide : EnvelopeKey.lfn ≠ .access) _
    |>.put (by decide : EnvelopeKey.guid ≠ .access) _
    |>.putOptional (by decide : EnvelopeKey.zguid ≠ .access) _
    |>.put (by decide : EnvelopeKey.size ≠ .access) _
    |>.putOptional (by decide : EnvelopeKey.md5 ≠ .access) _
    |>.put (by decide : EnvelopeKey.se ≠ .access) _

/-- Built envelopes and received ones are made by assignments. -/
theorem Obtainable.isAssigned (h : envelope.Obtainable) : envelope.IsAssigned := by
  cases h with
  | build access target anchor => exact isAssigned_build access target anchor
  | received hparse henvelope =>
    obtain ⟨access, -, rfl⟩ := ofReceived_eq_ok_iff.1 henvelope
    exact (isAssigned_start access _).putAll fun _ hkey => ne_access_of_mem_valueKeys hkey

/-! ## One order -/

/-- The values of an envelope, its list of keys and its line stand in canonical order. The keys are
those of the canonical order that have a value, one of which names the access; the list has their
names with its own behind them, and so has the line, with the values. -/
structure IsOrdered (envelope : Envelope) : Prop where
  ascending : envelope.fields.Pairwise fun a b => a.1.rank < b.1.rank
  keys : envelope.keys = EnvelopeKey.canonical.filter fun key => (envelope.get? key).isSome
  access : envelope.get? .access = some envelope.access.name
  listed : listedKeys envelope.keyList = envelope.keys.map EnvelopeKey.name ++ [keyListName]
  written : envelope.delimited.splitOn '&' =
    envelope.fields.map (fun field =>
      field.1.name.toList ++ '=' :: Percent.escape field.2.toList) ++
      [keyListName.toList ++ '=' :: envelope.keyList.toList]

/-- The keys with a value stand in canonical order. -/
theorem IsCanonical.keys_eq (h : envelope.IsCanonical) :
    envelope.keys = EnvelopeKey.canonical.filter fun key => (envelope.get? key).isSome := by
  have hkeys : envelope.keys.Pairwise fun a b => a.rank < b.rank :=
    List.pairwise_map.2 h.ascending
  have hcanonical : EnvelopeKey.canonical.Pairwise fun a b => a.rank < b.rank := by decide
  apply Ascending.eq_of_mem_iff hkeys (hcanonical.filter _)
  intro key
  rw [List.mem_filter, and_iff_right key.mem_canonical, Option.isSome_iff_exists]
  simp only [h.get?_eq_some_iff]
  simp [Envelope.keys]

/-- The list of keys is read back as their names and its own. -/
theorem listedKeys_keyList (envelope : Envelope) :
    listedKeys envelope.keyList = envelope.keys.map EnvelopeKey.name ++ [keyListName] := by
  apply listedKeys_intercalate (by simp)
  intro name hname
  have hall : ∀ key ∈ EnvelopeKey.canonical, '-' ∉ key.name.toList := by decide
  rcases List.mem_append.1 hname with hname | hname
  · obtain ⟨key, -, rfl⟩ := List.mem_map.1 hname
    exact hall key key.mem_canonical
  · rw [List.mem_singleton.1 hname]
    decide

/-- The pieces of a line are the pairs of the envelope and its list of keys, each as it is written.
-/
theorem splitOn_delimited (envelope : Envelope) :
    envelope.delimited.splitOn '&' = envelope.linePairs.map Delimited.writePair := by
  apply List.splitOn_intercalate
  · intro piece hpiece
    obtain ⟨pair, hpair, rfl⟩ := List.mem_map.1 hpiece
    obtain ⟨-, hplain, -⟩ := ticketNames_plain pair.1 (mem_ticketNames_of_mem_linePairs hpair)
    have hname : '&' ∉ pair.1.toList := fun hamp => (hplain '&' hamp).2.1 rfl
    simp [Delimited.writePair, hname, Percent.amp_not_mem_escape]
  · simp

theorem IsCanonical.isOrdered (h : envelope.IsCanonical) : envelope.IsOrdered where
  ascending := h.ascending
  keys := h.keys_eq
  access := h.access
  listed := envelope.listedKeys_keyList
  written := by
    have hlist : Percent.escape envelope.keyList.toList = envelope.keyList.toList :=
      Percent.escape_eq_self fun _ hc => (plain_of_mem_keyList hc).1
    rw [splitOn_delimited, linePairs, List.map_append, List.map_singleton, pairs, List.map_map,
      Delimited.writePair, hlist]
    rfl

/-- Whatever values are assigned to an envelope that says only which access is granted, they stand
in canonical order, in the list of keys and in the line as well; the access stays, and every other
key has the last value that was assigned to it. Searching for the place of each key comes to the
same, and so do the assignments in any order that keeps those to each key in theirs, which is any
order at all if no two of them are to one key. Every envelope that can be had is made in this way,
and the order is that of all keys, in which a key stands at the place that its rank tells. -/
theorem assigned_in_order :
    (∀ key : EnvelopeKey, EnvelopeKey.canonical[key.rank]? = some key) ∧
    (∀ (access : AccessKind) (path : Option String) (assignments : List (EnvelopeKey × String)),
      KeepsAccess assignments →
      ((start access path).assign assignments).IsOrdered ∧
      ((start access path).assign assignments).get? .access = some access.name ∧
      (∀ key ≠ .access,
        ((start access path).assign assignments).get? key = lastValue? assignments key) ∧
      (∀ search, IsSearch search →
        assignSearching search (start access path) assignments =
          (start access path).assign assignments) ∧
      (∀ others, Reorders assignments others →
        (start access path).assign others = (start access path).assign assignments) ∧
      ((assignments.map Prod.fst).Nodup → ∀ others, assignments.Perm others →
        (start access path).assign others = (start access path).assign assignments)) ∧
    ∀ envelope : Envelope, envelope.Obtainable → envelope.IsAssigned ∧ envelope.IsOrdered := by
  refine ⟨EnvelopeKey.getElem?_rank, ?_, fun envelope h => ⟨h.isAssigned, h.isCanonical.isOrdered⟩⟩
  intro access path assignments hkeeps
  have hstart := isCanonical_start access path
  have hassigned := hstart.assign hkeeps
  refine ⟨hassigned.isOrdered, ?_, ?_, ?_, ?_, ?_⟩
  · rw [hassigned.access, (assign_kept _ _).1]
    rfl
  · intro key hkey
    rw [get?_assign, get?_start_of_ne access path hkey, Option.or_none]
  · intro search hsearch
    exact hstart.assignSearching_eq hkeeps hsearch
  · intro others hothers
    exact hothers.assign_eq hstart hkeeps
  · intro hnodup others hperm
    exact (reorders_of_perm hperm hnodup).assign_eq hstart hkeeps

/-- Assignments out of order, two of them to one key. -/
def sampleAssignments : List (EnvelopeKey × String) :=
  [(.se, "ALICE::EXAMPLE::OLD"), (.turl, "root://disk.example:1094//data/f"),
    (.se, "ALICE::EXAMPLE::DISK"), (.lfn, "/alice/a&b")]

theorem assigned_in_order_sample :
    KeepsAccess sampleAssignments ∧
    ((start .read none).assign sampleAssignments).keys = [.turl, .access, .lfn, .se] ∧
    ((start .read none).assign sampleAssignments).get? .se = some "ALICE::EXAMPLE::DISK" ∧
    assignSearching placeOf (start .read none) sampleAssignments =
      (start .read none).assign sampleAssignments ∧
    listedKeys ((start .read none).assign sampleAssignments).keyList =
      ["turl", "access", "lfn", "se", "hashord"] := by
  have hkeeps : KeepsAccess sampleAssignments := by decide
  obtain ⟨hordered, -, hvalues, hsearching, -⟩ :=
    assigned_in_order.2.1 .read none sampleAssignments hkeeps
  have hkeys : ((start .read none).assign sampleAssignments).keys = [.turl, .access, .lfn, .se] := by
    decide
  refine ⟨hkeeps, hkeys, ?_, hsearching placeOf isSearch_placeOf, ?_⟩
  · rw [hvalues .se (by decide)]
    decide
  · rw [hordered.listed, hkeys]
    decide

end Envelope

end GridAccess
