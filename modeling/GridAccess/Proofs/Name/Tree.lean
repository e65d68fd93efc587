import GridAccess.Proofs.Name.Reading

/-!
# The tree of paths

The text of a path is that of its parent with a slash and a name behind it, so the parents of a path
are ever shorter and end with the root. What a name denotes below a path is the path itself or lies
below it: trimming does not reach behind the slash between the two, and names with dots are refused.

## Main definitions

- `IsAbsoluteText` — a text with single slashes and without dots between them

## Main statements

- `LogicalPath.isAbsoluteText_chars` — the texts of paths are such
- `LogicalPath.text_eq` — the text of a path from that of its parent
- `LogicalPath.isChain_ancestors`, `LogicalPath.length_ancestors` — the parents up to the root
- `LogicalPath.join_cases` — what comes below a path
- `path_wellPlaced` — all of this
-/

namespace GridAccess

open Text

/-- A text that starts with a slash, has no slash after another, has none at its end unless it is a
single slash, and has no piece that stands for a directory by its dots. -/
structure IsAbsoluteText (text : List Char) : Prop where
  starts : text.head? = some '/'
  single : ¬['/', '/'] <:+: text
  ends : text.getLast? = some '/' → text = ['/']
  undotted : ∀ piece ∈ text.splitOn '/', piece ≠ ['.'] ∧ piece ≠ ['.', '.']

namespace LogicalPath

variable {path parent result : LogicalPath} {name : String}

theorem segments_eq_nil_iff : path.segments = [] ↔ path = root :=
  ⟨fun h => segments_injective h, fun h => h ▸ rfl⟩

/-- A path other than the root has a parent and a name. -/
theorem exists_parent_of_ne_root (h : path ≠ root) :
    ∃ parent name, path.parent? = some parent ∧ path.fileName? = some name := by
  have hne : path.segments ≠ [] := mt segments_eq_nil_iff.1 h
  rw [parent?, if_neg hne, fileName?, List.getLast?_eq_some_getLast hne]
  exact ⟨_, _, rfl, rfl⟩

/-- The name of a path is a segment. -/
theorem isSegment_fileName (hname : path.fileName? = some name) : IsSegment name.toList := by
  obtain ⟨last, hlast, rfl⟩ := Option.map_eq_some_iff.1 hname
  rw [String.toList_ofList]
  exact path.isSegment last (List.mem_of_getLast? hlast)

/-! ## Texts -/

/-- The text of a path is that of its parent, a slash and the name. The root is left out. -/
theorem chars_eq (hparent : path.parent? = some parent) (hname : path.fileName? = some name) :
    path.chars = (if parent = root then [] else parent.chars) ++ '/' :: name.toList := by
  rw [chars_eq_append (segments_eq_append hparent hname)]
  split
  · next hroot => rw [hroot, root, List.flatMap_nil]
  · next hroot => rw [chars_eq_flatMap (mt segments_eq_nil_iff.1 hroot)]

theorem text_eq (hparent : path.parent? = some parent) (hname : path.fileName? = some name) :
    path.text = (if parent = root then "" else parent.text) ++ "/" ++ name := by
  apply String.toList_injective
  rw [text, String.toList_ofList, chars_eq hparent hname]
  split
  · simp
  · simp [text]

/-- A parent has a shorter text. -/
theorem length_chars_parent_lt (hparent : path.parent? = some parent)
    (hname : path.fileName? = some name) : parent.chars.length < path.chars.length := by
  have hpos : 0 < name.toList.length := List.length_pos_iff.2 (isSegment_fileName hname).1
  rw [chars_eq hparent hname, List.length_append, List.length_cons]
  split
  · next hroot =>
    have hone : root.chars.length = 1 := rfl
    rw [hroot, hone]
    omega
  · omega

theorem isAbsoluteText_chars (path : LogicalPath) : IsAbsoluteText path.chars where
  starts := rfl
  single := path.not_isInfix_chars
  ends := by
    intro hlast
    by_cases hroot : path = root
    · rw [hroot]
      rfl
    · obtain ⟨parent, name, hparent, hname⟩ := exists_parent_of_ne_root hroot
      obtain ⟨hne, hslash, -⟩ := isSegment_fileName hname
      rw [chars_eq hparent hname, List.getLast?_append_cons,
        List.getLast?_cons_of_ne_nil hne] at hlast
      exact absurd (List.mem_of_getLast? hlast) hslash
  undotted := by
    intro piece hpiece
    by_cases hnil : piece = []
    · simp [hnil]
    · have hsegment : piece ∈ path.segments := by
        rw [← path.pieces_chars]
        exact List.mem_filter.2 ⟨hpiece, by simpa using hnil⟩
      exact (path.isSegment piece hsegment).2.2

/-! ## Ancestors -/

/-- Each ancestor is the parent of the one before, with a shorter text. -/
theorem isChain_ancestors (path : LogicalPath) :
    (path :: path.ancestors).IsChain fun lower upper =>
      lower.parent? = some upper ∧ upper.chars.length < lower.chars.length := by
  fun_induction ancestors path with
  | case1 path parent hparent ih =>
    have hne : path ≠ root := by
      rintro rfl
      cases hparent
    obtain ⟨_, name, -, hname⟩ := exists_parent_of_ne_root hne
    exact List.isChain_cons_cons.2 ⟨⟨hparent, length_chars_parent_lt hparent hname⟩, ih⟩
  | case2 path hparent => exact .singleton path

/-- The last ancestor is the root. -/
theorem getLast?_ancestors (path : LogicalPath) :
    (path :: path.ancestors).getLast? = some root := by
  fun_induction ancestors path with
  | case1 path parent hparent ih => rwa [List.getLast?_cons_cons]
  | case2 path hparent =>
    have hroot : path = root := by
      refine Classical.byContradiction fun hne => ?_
      obtain ⟨parent, name, hfound, -⟩ := exists_parent_of_ne_root hne
      rw [hparent] at hfound
      cases hfound
    rw [hroot]
    rfl

/-- There are as many ancestors as segments. -/
theorem length_ancestors (path : LogicalPath) : path.ancestors.length = path.segments.length := by
  fun_induction ancestors path with
  | case1 path parent hparent ih => rw [List.length_cons, ih, length_parent? hparent]
  | case2 path hparent =>
    rw [parent?] at hparent
    split at hparent
    · next hnil =>
      rw [hnil]
      rfl
    · cases hparent

/-! ## Below a path -/

/-- What a name denotes below a path other than the root is the path or has its text in front. -/
theorem join_cases (h : path.join name = .ok result) :
    path = root ∨ result = path ∨ path.chars ++ ['/'] <+: result.chars := by
  rw [join_eq_ok_iff] at h
  by_cases hroot : path = root
  · exact Or.inl hroot
  right
  have hne : path.segments ≠ [] := mt segments_eq_nil_iff.1 hroot
  cases hpieces : pieces (trimEnd name.toList) with
  | nil =>
    left
    rw [hpieces, List.append_nil] at h
    exact segments_injective h
  | cons piece rest =>
    right
    have hmore : result.segments ≠ [] := by simp [h, hpieces]
    refine ⟨piece ++ rest.flatMap ('/' :: ·), ?_⟩
    rw [chars_eq_flatMap hmore, h, hpieces, List.flatMap_append, ← chars_eq_flatMap hne,
      List.flatMap_cons]
    simp

end LogicalPath

/-- The text of every path is that of an absolute path. A path other than the root has a parent and
a name without slashes, which its text is made of. So its parents are ever shorter, and they end
with the root after as many steps as the text has segments. What a name denotes below a path other
than the root is the path itself or starts with its text and a slash. -/
theorem path_wellPlaced (path : LogicalPath) :
    IsAbsoluteText path.chars ∧
    (path ≠ .root → ∃ parent name, path.parent? = some parent ∧ path.fileName? = some name ∧
      name ≠ "" ∧ '/' ∉ name.toList ∧
      path.text = (if parent = .root then "" else parent.text) ++ "/" ++ name) ∧
    (path :: path.ancestors).IsChain (fun lower upper =>
      lower.parent? = some upper ∧ upper.chars.length < lower.chars.length) ∧
    (path :: path.ancestors).getLast? = some .root ∧
    path.ancestors.length = (LogicalPath.pieces path.chars).length ∧
    ∀ name result, path.join name = .ok result →
      path = .root ∨ result = path ∨ path.chars ++ ['/'] <+: result.chars := by
  refine ⟨path.isAbsoluteText_chars, ?_, path.isChain_ancestors, path.getLast?_ancestors, ?_,
    fun _ _ => LogicalPath.join_cases⟩
  · intro hroot
    obtain ⟨parent, name, hparent, hname⟩ := LogicalPath.exists_parent_of_ne_root hroot
    obtain ⟨hne, hslash, -⟩ := LogicalPath.isSegment_fileName hname
    refine ⟨parent, name, hparent, hname, ?_, hslash, LogicalPath.text_eq hparent hname⟩
    rintro rfl
    exact hne rfl
  · rw [path.length_ancestors, path.pieces_chars]

/-- A path with a parent that is not the root, and what a name denotes below it. -/
theorem path_wellPlaced_sample :
    let path : LogicalPath := ⟨["alice".toList, "data".toList], by decide⟩
    let result : LogicalPath :=
      ⟨["alice".toList, "data".toList, "runs".toList, "file".toList], by decide⟩
    (∃ parent name, path.parent? = some parent ∧ path.fileName? = some name ∧
      parent.text = "/alice" ∧ name = "data" ∧ path.text = parent.text ++ "/" ++ name) ∧
    path.join "runs//file " = .ok result ∧ path.chars ++ ['/'] <+: result.chars := by
  intro path result
  obtain ⟨-, hnamed, -, -, -, hjoin⟩ := path_wellPlaced path
  have hroot : path ≠ .root := by decide
  have hresult : path.join "runs//file " = .ok result := by decide
  refine ⟨?_, hresult, ?_⟩
  · obtain ⟨parent, name, hparent, hname, -, -, htext⟩ := hnamed hroot
    have halice : parent = ⟨["alice".toList], by decide⟩ := Option.some.inj (hparent.symm.trans rfl)
    have hdata : name = "data" := Option.some.inj (hname.symm.trans rfl)
    subst halice hdata
    exact ⟨_, _, hparent, hname, rfl, rfl, htext⟩
  · have hbelow : result ≠ path := by decide
    exact ((hjoin _ _ hresult).resolve_left hroot).resolve_left hbelow

end GridAccess
