import GridAccess.Text.Blank
import GridAccess.Text.Search

/-!
# Logical paths

The catalogue names files by absolute paths. A path is its list of segments; the text is a slash
before each segment, and a single slash for the root.

## Main definitions

- `IsSegment` — what may stand between two slashes
- `LogicalPath` — a list of segments
- `LogicalPath.chars`, `LogicalPath.text` — the path as text
- `LogicalPath.parse` — the path denoted by a text, repeated and trailing slashes ignored
- `LogicalPath.parent?`, `LogicalPath.fileName?`, `LogicalPath.join` — moving through the tree

## Main statements

- `segments_injective`, `chars_injective` — a path is determined by its segments, and by its text
- `length_parent?` — a parent has one segment less
-/

namespace GridAccess

open Text

/-- A segment is not empty, holds no slash, and is neither `.` nor `..`. -/
def IsSegment (segment : List Char) : Prop :=
  segment ≠ [] ∧ '/' ∉ segment ∧ segment ≠ ['.'] ∧ segment ≠ ['.', '.']

instance (segment : List Char) : Decidable (IsSegment segment) := by
  unfold IsSegment
  infer_instance

/-- An absolute path of the catalogue. -/
structure LogicalPath where
  segments : List (List Char)
  isSegment : ∀ segment ∈ segments, IsSegment segment
  deriving DecidableEq

/-- Why a text is no logical path. -/
inductive PathError where
  | empty
  | notAbsolute (text : String)
  | relativeSegment (text : String)
  deriving DecidableEq, Repr

namespace LogicalPath

/-- The path written into envelopes when no name points at a file. -/
def noName : String := "/NOLFN"

def root : LogicalPath := ⟨[], by simp⟩

/-- The segments with slashes between them, and none in front. -/
def relative (path : LogicalPath) : List Char :=
  ['/'].intercalate path.segments

def chars (path : LogicalPath) : List Char :=
  '/' :: path.relative

/-- The text of a path as a string. -/
def text (path : LogicalPath) : String :=
  String.ofList path.chars

/-- Whether a path is the top of the tree. -/
def isRoot (path : LogicalPath) : Bool :=
  path.segments.isEmpty

/-- The pieces between slashes that are not empty. -/
def pieces (text : List Char) : List (List Char) :=
  (text.splitOn '/').filter fun piece => piece ≠ []

/-- Whether a piece stands for the directory itself or the one above. -/
def isDots (piece : List Char) : Bool :=
  piece = ['.'] || piece = ['.', '.']

/-- The path denoted by a text that starts with a slash. -/
def ofAbsolute (text : List Char) : Except PathError LogicalPath :=
  if h : ∀ piece ∈ pieces text, isDots piece = false then
    .ok ⟨pieces text, by
      intro piece hpiece
      have hdots := h piece hpiece
      simp only [pieces, List.mem_filter] at hpiece
      simp only [isDots, Bool.or_eq_false_iff, decide_eq_false_iff_not] at hdots
      exact ⟨by simpa using hpiece.2, not_mem_of_mem_splitOn hpiece.1, hdots.1, hdots.2⟩⟩
  else .error (.relativeSegment (String.ofList text))

/-- The path denoted by a text, with white space around it ignored. -/
def ofChars (text : List Char) : Except PathError LogicalPath :=
  match trim text with
  | [] => .error .empty
  | '/' :: rest => ofAbsolute ('/' :: rest)
  | other => .error (.notAbsolute (String.ofList other))

/-- The path denoted by a string, with white space around it ignored. -/
def parse (text : String) : Except PathError LogicalPath :=
  ofChars text.toList

/-- The last segment. The root has none. -/
def fileName? (path : LogicalPath) : Option String :=
  path.segments.getLast?.map String.ofList

/-- The enclosing directory. The root has none. -/
def parent? (path : LogicalPath) : Option LogicalPath :=
  if path.segments = [] then none
  else some ⟨path.segments.dropLast, fun segment h =>
    path.isSegment segment (List.dropLast_subset _ h)⟩

/-- The path denoted by a text below a path. -/
def join (path : LogicalPath) (name : String) : Except PathError LogicalPath :=
  ofChars (path.chars ++ '/' :: name.toList)

/-- The enclosing directories, nearest first, down to the root. -/
def ancestors (path : LogicalPath) : List LogicalPath :=
  match _h : path.parent? with
  | some parent => parent :: parent.ancestors
  | none => []
termination_by path.segments.length
decreasing_by
  unfold parent? at _h
  split at _h
  · cases _h
  · next hne =>
    cases _h
    have := List.length_pos_iff.2 hne
    simp only [List.length_dropLast]
    omega

/-- The order of the texts by code points. -/
def before (a b : LogicalPath) : Bool :=
  a.chars < b.chars

theorem segments_injective {a b : LogicalPath} (h : a.segments = b.segments) : a = b := by
  cases a
  cases b
  simp_all

theorem length_parent? {path parent : LogicalPath} (h : path.parent? = some parent) :
    parent.segments.length + 1 = path.segments.length := by
  unfold parent? at h
  split at h
  · cases h
  · next hne =>
    cases h
    have := List.length_pos_iff.2 hne
    simp only [List.length_dropLast]
    omega

theorem chars_injective {a b : LogicalPath} (h : a.chars = b.chars) : a = b := by
  apply segments_injective
  have hrel : ['/'].intercalate a.segments = ['/'].intercalate b.segments := by
    simpa [chars, relative] using h
  have split : ∀ path : LogicalPath, path.segments ≠ [] →
      (['/'].intercalate path.segments).splitOn '/' = path.segments := fun path hne =>
    List.splitOn_intercalate '/' (fun s hs => (path.isSegment s hs).2.1) hne
  have empty : ∀ path : LogicalPath, ['/'].intercalate path.segments = [] →
      path.segments = [] := by
    intro path hnil
    apply Classical.byContradiction
    intro hne
    have hsplit := split path hne
    rw [hnil, List.splitOn_nil] at hsplit
    exact (path.isSegment [] (by rw [← hsplit]; simp)).1 rfl
  by_cases ha : a.segments = []
  · have hb : b.segments = [] := empty b (by rw [← hrel, ha]; rfl)
    rw [ha, hb]
  · have hb : b.segments ≠ [] := fun hb => ha (empty a (by rw [hrel, hb]; rfl))
    rw [← split a ha, ← split b hb, hrel]

end LogicalPath

def PathError.message : PathError → String
  | .empty => "logical file name is empty"
  | .notAbsolute text => s!"logical file name '{text}' is not an absolute path"
  | .relativeSegment text => s!"logical file name '{text}' contains relative segments"

end GridAccess
