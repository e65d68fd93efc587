import GridAccess.Proofs.Identity.Guid
import GridAccess.Proofs.Storage.Endpoint

/-!
# Locations of new replicas

A new replica is put below the directory of its storage element, at a place that its identifier
determines. So no two files are put at one location. The storage path of the location is the place
below the directory, however many slashes stand around the text of the directory. Only the root
comes out with a slash of its own: a path below it starts with two.

## Main definitions

- `StorageDirectory` — a directory by its segments
- `StorageElement.KeepsIn` — an element with a directory, whose text may have slashes around it
- `StartsWithOneSlash` — a path without a second slash behind the first

## Main statements

- `StorageElement.KeepsIn.rootedDirectory` — the directory as it is put into locations
- `storagePath_newLocation` — the storage path of a new replica
- `startsWithOneSlash_rooted_iff` — which paths start with one slash
- `location_of_one_file` — the place of a file, and that no other file has it
-/

namespace GridAccess

open Text

/-! ## Directories -/

/-- A directory by its segments, which hold neither a slash nor a hash sign. The root has none. -/
structure StorageDirectory where
  segments : List (List Char)
  ne_nil : ∀ segment ∈ segments, segment ≠ []
  slash_not_mem : ∀ segment ∈ segments, '/' ∉ segment
  hash_not_mem : ∀ segment ∈ segments, '#' ∉ segment

namespace StorageDirectory

variable (directory : StorageDirectory)

/-- The text of a directory: a slash before each segment, and nothing at all for the root. -/
def chars : List Char :=
  directory.segments.flatMap ('/' :: ·)

/-- A directory as it is put into locations, where the root is a slash. -/
def rooted : List Char :=
  if directory.segments = [] then ['/'] else directory.chars

/-- The segments with slashes between them. -/
def relative : List Char :=
  ['/'].intercalate directory.segments

theorem cons_relative (h : directory.segments ≠ []) : '/' :: directory.relative = directory.chars :=
  LogicalPath.cons_intercalate_eq_flatMap h

theorem exists_rooted_eq_cons : ∃ rest, directory.rooted = '/' :: rest := by
  rw [rooted]
  split
  · exact ⟨_, rfl⟩
  · next hroot => exact ⟨_, (directory.cons_relative hroot).symm⟩

theorem hash_not_mem_rooted : '#' ∉ directory.rooted := by
  rw [rooted]
  split
  · decide
  · simp only [chars, List.mem_flatMap, List.mem_cons, not_exists, not_and, not_or]
    exact fun segment hsegment => ⟨by decide, directory.hash_not_mem segment hsegment⟩

/-- The first segment does not start with a slash. -/
theorem exists_relative_eq_cons (h : directory.segments ≠ []) :
    ∃ c rest, directory.relative = c :: rest ∧ c ≠ '/' := by
  obtain ⟨first, others, hsegments⟩ := List.exists_cons_of_ne_nil h
  have hfirst : first ∈ directory.segments := by simp [hsegments]
  obtain ⟨c, rest, rfl⟩ := List.exists_cons_of_ne_nil (directory.ne_nil first hfirst)
  have htext := directory.cons_relative h
  rw [chars, hsegments, List.flatMap_cons, List.cons_append, List.cons.injEq] at htext
  refine ⟨c, _, htext.2, ?_⟩
  rintro rfl
  exact directory.slash_not_mem _ hfirst (by simp)

/-- The last segment does not end with a slash. -/
theorem ne_slash_of_mem_getLast? {c : Char} (h : c ∈ directory.relative.getLast?) : c ≠ '/' := by
  rcases List.eq_nil_or_concat directory.segments with hroot | ⟨front, last, hsegments⟩
  · rw [relative, hroot] at h
    cases h
  rw [List.concat_eq_append] at hsegments
  have hlast : last ∈ directory.segments := by simp [hsegments]
  obtain ⟨start, d, rfl⟩ :=
    List.eq_nil_or_concat last |>.resolve_left (directory.ne_nil last hlast)
  -- The slash in front of the text does not change where it ends.
  have hends : ('/' :: directory.relative).getLast? = some d := by
    rw [directory.cons_relative (by simp [hsegments]), chars, hsegments, List.flatMap_append,
      List.flatMap_singleton, List.concat_eq_append, ← List.cons_append, ← List.append_assoc,
      List.getLast?_concat]
  rw [List.getLast?_cons, Option.mem_def.1 h, Option.getD_some, Option.some.injEq] at hends
  rw [hends]
  rintro rfl
  exact directory.slash_not_mem _ hlast (by simp)

end StorageDirectory

/-- An element that keeps its files in a directory. The text of the directory may have a slash in
front, and slashes at its end. -/
def StorageElement.KeepsIn (element : StorageElement) (directory : StorageDirectory) : Prop :=
  ∃ leading ∈ [[], ['/']], ∃ slashes,
    element.directory.toList = leading ++ directory.relative ++ List.replicate slashes '/'

variable {element : StorageElement} {endpoint : Endpoint} {directory : StorageDirectory}

/-- The slashes around the text of a directory do not matter. -/
theorem StorageElement.KeepsIn.rootedDirectory (h : element.KeepsIn directory) :
    element.rootedDirectory = directory.rooted := by
  obtain ⟨leading, hleading, slashes, htext⟩ := h
  rw [StorageElement.rootedDirectory, withoutTrailingSlashes_eq htext, StorageDirectory.rooted]
  by_cases hroot : directory.segments = []
  · have hslashes : ∀ leading ∈ [[], ['/']], dropEnd (· == '/') (leading ++ []) = [] := by decide
    rw [if_pos hroot, StorageDirectory.relative, hroot, List.intercalate_nil,
      hslashes leading hleading]
  · obtain ⟨c, rest, hrelative, hc⟩ := directory.exists_relative_eq_cons hroot
    have hkept : dropEnd (· == '/') (leading ++ directory.relative) =
        leading ++ directory.relative := by
      apply dropEnd_eq_self
      intro d hd
      rw [List.getLast?_append_of_ne_nil _ (by simp [hrelative])] at hd
      exact beq_eq_false_iff_ne.2 (directory.ne_slash_of_mem_getLast? hd)
    rw [if_neg hroot, hkept, ← directory.cons_relative hroot]
    rcases List.mem_pair.1 hleading with rfl | rfl
    · rw [List.nil_append, hrelative]
      split
      · next heq => exact absurd (List.cons.inj heq).1 hc
      · rfl
    · rfl

/-! ## Locations -/

theorem toList_newLocation (element : StorageElement) (guid : Guid) :
    (element.newLocation guid).toList =
      StorageElement.withoutTrailingSlashes element.endpoint ++ '/' :: element.rootedDirectory ++
        '/' :: guid.directory :=
  String.toList_ofList

/-- The storage path of a new replica is its place below the directory of the element. -/
theorem storagePath_newLocation (hat : element.IsAt endpoint) (hin : element.KeepsIn directory)
    (guid : Guid) :
    storagePath (element.newLocation guid).toList =
      directory.rooted ++ '/' :: guid.directory := by
  obtain ⟨rest, hrest⟩ := directory.exists_rooted_eq_cons
  have hhash : '#' ∉ rest ++ '/' :: guid.directory := by
    have hrooted := directory.hash_not_mem_rooted
    rw [hrest, List.mem_cons, not_or] at hrooted
    simp [hrooted.2, guid.hash_not_mem_directory]
  have hlocation : (element.newLocation guid).toList =
      endpoint.chars ++ '/' :: '/' :: (rest ++ '/' :: guid.directory) := by
    rw [toList_newLocation, hat.withoutTrailingSlashes, hin.rootedDirectory, hrest]
    simp
  rw [hlocation, storagePath_endpoint_slash, withoutAnchor_eq_self_iff.2 hhash, hrest,
    List.cons_append]

/-- A path starts with a slash, and no second slash follows. -/
def StartsWithOneSlash (path : List Char) : Prop :=
  ∃ c rest, path = '/' :: c :: rest ∧ c ≠ '/'

/-- The path of a place below a directory is its text with a slash before each part exactly if the
directory is not the root. -/
theorem rooted_append_eq_iff {place : List Char} :
    directory.rooted ++ place = directory.chars ++ place ↔ directory.segments ≠ [] := by
  rw [List.append_cancel_right_eq, StorageDirectory.rooted]
  split
  · next hroot => simp [hroot, StorageDirectory.chars]
  · next hroot => simp [hroot]

/-- The path of a place below a directory starts with one slash exactly if the directory is not the
root. -/
theorem startsWithOneSlash_rooted_iff {place : List Char} :
    StartsWithOneSlash (directory.rooted ++ '/' :: place) ↔ directory.segments ≠ [] := by
  by_cases hroot : directory.segments = []
  · refine iff_of_false ?_ (not_not_intro hroot)
    rintro ⟨c, rest, hpath, hc⟩
    rw [StorageDirectory.rooted, if_pos hroot] at hpath
    simp only [List.singleton_append, List.cons.injEq, true_and] at hpath
    exact hc hpath.1.symm
  · refine iff_of_true ?_ hroot
    obtain ⟨c, rest, hrelative, hc⟩ := directory.exists_relative_eq_cons hroot
    refine ⟨c, rest ++ '/' :: place, ?_, hc⟩
    rw [StorageDirectory.rooted, if_neg hroot, ← directory.cons_relative hroot, hrelative]
    rfl

/-- The place of a file below a directory: two numbers that its identifier determines, and the text
of the identifier, from which it is read back. No other file has the same location, whatever the
endpoint and the directory of the element are. -/
theorem location_of_one_file (guid : Guid) :
    (∃ level folder, guid.directory = level ++ '/' :: folder ++ '/' :: guid.chars ∧
      Guid.IsNumber 2 (guid.foldedHalves % 16) level ∧
      Guid.IsNumber 5 (guid.foldedHalves % 100000) folder) ∧
    guid.foldedHalves < UInt32.size ∧
    guid.chars.length = 36 ∧ Guid.IsHyphenated guid.chars ∧
    Guid.parse guid.text = .ok guid ∧
    ∀ (element : StorageElement) (other : Guid),
      element.newLocation other = element.newLocation guid ↔ other = guid := by
  refine ⟨guid.exists_directory_eq, guid.foldedHalves_lt, guid.length_chars,
    guid.isHyphenated_chars, guid.parse_text, ?_⟩
  intro element other
  constructor
  · intro hsame
    have htext := congrArg String.toList hsame
    rw [toList_newLocation, toList_newLocation, List.append_cancel_left_eq, List.cons.injEq]
      at htext
    exact Guid.directory_injective htext.2
  · rintro rfl
    rfl

end GridAccess
