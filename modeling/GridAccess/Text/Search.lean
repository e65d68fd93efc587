/-!
# Searching and cutting texts

A mark is a non-empty text looked for inside of another text.

## Main definitions

- `stripStart?`, `stripEnd?` — what remains of a text after a mark at its start or its end
- `cut` — the parts before and after the first occurrence of a mark
- `cutLast` — the parts before and after the last occurrence of a mark
- `between` — the text between the first opening mark and the last closing mark after it

## Main statements

- `stripStart?_eq_some_iff` — what remains is the text without the mark
- `cut_append` — the two parts and the mark make up the text
- `not_mem_of_mem_splitOn` — the pieces between separators hold no separator
-/

namespace GridAccess.Text

/-- The rest of a text that starts with `mark`. -/
def stripStart? (mark text : List Char) : Option (List Char) :=
  mark.isPrefixOf? text

/-- The front of a text that ends with `mark`. -/
def stripEnd? (mark text : List Char) : Option (List Char) :=
  (stripStart? mark.reverse text.reverse).map List.reverse

/-- The parts of a text before and after the first occurrence of `mark`. -/
def cut (mark : List Char) : List Char → Option (List Char × List Char)
  | [] => (stripStart? mark []).map fun rest => ([], rest)
  | c :: text =>
    match stripStart? mark (c :: text) with
    | some rest => some ([], rest)
    | none => (cut mark text).map fun parts => (c :: parts.1, parts.2)

/-- The parts of a text before and after the last occurrence of `mark`. -/
def cutLast (mark : List Char) : List Char → Option (List Char × List Char)
  | [] => (stripStart? mark []).map fun rest => ([], rest)
  | c :: text =>
    match cutLast mark text with
    | some parts => some (c :: parts.1, parts.2)
    | none => (stripStart? mark (c :: text)).map fun rest => ([], rest)

def contains (mark text : List Char) : Bool :=
  (cut mark text).isSome

/-- The text between the first `opening` and the last `closing` after it. -/
def between (opening closing text : List Char) : Option (List Char) := do
  let (_, rest) ← cut opening text
  let (inside, _) ← cutLast closing rest
  return inside

theorem stripStart?_eq_some_iff {mark text rest : List Char} :
    stripStart? mark text = some rest ↔ text = mark ++ rest := by
  unfold stripStart?
  induction mark generalizing text with
  | nil => exact ⟨fun h => Option.some.inj h, fun h => congrArg some h⟩
  | cons m mark ih =>
    cases text with
    | nil => exact ⟨(nomatch ·), (nomatch ·)⟩
    | cons c text =>
      have hcons : (m :: mark).isPrefixOf? (c :: text) =
          if m == c then mark.isPrefixOf? text else none := rfl
      rw [hcons]
      by_cases h : m = c
      · simp [h, ih]
      · simp [h, Ne.symm h]

@[simp] theorem stripStart?_append (mark rest : List Char) :
    stripStart? mark (mark ++ rest) = some rest :=
  stripStart?_eq_some_iff.2 rfl

theorem stripEnd?_eq_some_iff {mark text front : List Char} :
    stripEnd? mark text = some front ↔ text = front ++ mark := by
  unfold stripEnd?
  rw [Option.map_eq_some_iff]
  constructor
  · rintro ⟨r, hr, rfl⟩
    rw [stripStart?_eq_some_iff] at hr
    have := congrArg List.reverse hr
    simpa using this
  · intro h
    exact ⟨front.reverse, by rw [stripStart?_eq_some_iff, h]; simp, by simp⟩

theorem not_mem_of_mem_splitOn {separator : Char} {text piece : List Char}
    (h : piece ∈ text.splitOn separator) : separator ∉ piece := by
  induction text generalizing piece with
  | nil =>
    rw [List.splitOn_nil, List.mem_singleton] at h
    simp [h]
  | cons c text ih =>
    rw [List.splitOn_eq_splitOnP, List.splitOnP_cons_eq_if_modifyHead] at h
    rw [List.splitOn_eq_splitOnP] at ih
    split at h
    · rcases List.mem_cons.1 h with rfl | h
      · simp
      · exact ih h
    · next hc =>
      cases hsplit : text.splitOnP (fun d => d == separator) with
      | nil => exact absurd hsplit (List.splitOnP_ne_nil _ _)
      | cons first others =>
        rw [hsplit] at h ih
        rcases List.mem_cons.1 h with rfl | h
        · have hfirst : separator ∉ first := ih (by simp)
          have hne : ¬separator = c := fun heq => hc (by simp [heq])
          simp [hfirst, hne]
        · exact ih (List.mem_cons_of_mem _ h)

/-- The two parts and the mark make up the text. -/
theorem cut_append {mark text before after : List Char}
    (h : cut mark text = some (before, after)) : text = before ++ mark ++ after := by
  induction text generalizing before with
  | nil =>
    simp only [cut, Option.map_eq_some_iff, stripStart?_eq_some_iff] at h
    obtain ⟨rest, hrest, hparts⟩ := h
    cases hparts
    simpa using hrest
  | cons c text ih =>
    unfold cut at h
    split at h
    · next rest hrest =>
      rw [stripStart?_eq_some_iff] at hrest
      cases h
      simpa using hrest
    · rw [Option.map_eq_some_iff] at h
      obtain ⟨parts, hparts, heq⟩ := h
      cases heq
      rw [ih hparts]
      simp

/-- The two parts and the mark make up the text. -/
theorem cutLast_append {mark text before after : List Char}
    (h : cutLast mark text = some (before, after)) : text = before ++ mark ++ after := by
  induction text generalizing before with
  | nil =>
    simp only [cutLast, Option.map_eq_some_iff, stripStart?_eq_some_iff] at h
    obtain ⟨rest, hrest, hparts⟩ := h
    cases hparts
    simpa using hrest
  | cons c text ih =>
    unfold cutLast at h
    split at h
    · next parts hparts =>
      cases h
      rw [ih hparts]
      simp
    · rw [Option.map_eq_some_iff] at h
      obtain ⟨rest, hrest, heq⟩ := h
      cases heq
      rw [stripStart?_eq_some_iff] at hrest
      simpa using hrest

end GridAccess.Text
