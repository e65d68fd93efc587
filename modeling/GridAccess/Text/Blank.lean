/-!
# White space

White space is the set of characters with the Unicode property `White_Space`. It is removed from
the ends of nearly every text that enters the library.

## Main definitions

- `isBlank` — the 25 white-space characters
- `dropEnd` — the longest suffix of characters with a property, removed
- `trim` — white space removed from both ends
- `squeeze` — white space removed everywhere

## Main statements

- `dropEnd_append_removed`, `dropEnd_eq_nil_or` — `dropEnd` removes a suffix of characters of the
  class, and the longest such
-/

namespace GridAccess.Text

/-- The characters with the property `White_Space`. -/
def isBlank (c : Char) : Bool :=
  let n := c.toNat
  (9 ≤ n && n ≤ 13) || n == 0x20 || n == 0x85 || n == 0xA0 || n == 0x1680 ||
    (0x2000 ≤ n && n ≤ 0x200A) || n == 0x2028 || n == 0x2029 || n == 0x202F || n == 0x205F ||
    n == 0x3000

/-- Remove the longest suffix all of whose characters satisfy `p`. -/
def dropEnd (p : Char → Bool) : List Char → List Char
  | [] => []
  | c :: rest =>
    match dropEnd p rest with
    | [] => if p c then [] else [c]
    | kept => c :: kept

def trimStart (text : List Char) : List Char :=
  text.dropWhile isBlank

def trimEnd (text : List Char) : List Char :=
  dropEnd isBlank text

def trim (text : List Char) : List Char :=
  trimEnd (trimStart text)

def squeeze (text : List Char) : List Char :=
  text.filter fun c => !isBlank c

@[simp] theorem dropEnd_nil (p : Char → Bool) : dropEnd p [] = [] := rfl

/-- A last character outside of the class ends the removal. -/
theorem dropEnd_concat_of_not (p : Char → Bool) (text : List Char) {c : Char} (h : p c = false) :
    dropEnd p (text ++ [c]) = text ++ [c] := by
  induction text with
  | nil => simp [dropEnd, h]
  | cons d rest ih =>
    have hne : rest ++ [c] ≠ [] := by simp
    simp only [List.cons_append, dropEnd, ih]

/-- What `dropEnd` removes is a suffix of characters of the class. -/
theorem dropEnd_append_removed (p : Char → Bool) (text : List Char) :
    ∃ removed, text = dropEnd p text ++ removed ∧ ∀ c ∈ removed, p c = true := by
  induction text with
  | nil => exact ⟨[], by simp⟩
  | cons c rest ih =>
    obtain ⟨removed, hrest, hall⟩ := ih
    simp only [dropEnd]
    split
    · next hnil =>
      rw [hnil, List.nil_append] at hrest
      by_cases hc : p c = true
      · refine ⟨c :: removed, by simp [hc, ← hrest], ?_⟩
        intro d hd
        rcases List.mem_cons.1 hd with rfl | hd
        · exact hc
        · exact hall d hd
      · exact ⟨removed, by simp [hc, ← hrest], hall⟩
    · next _ =>
      refine ⟨removed, ?_, hall⟩
      rw [List.cons_append, ← hrest]

/-- After `dropEnd` the last character is outside of the class. -/
theorem dropEnd_eq_nil_or (p : Char → Bool) (text : List Char) :
    dropEnd p text = [] ∨ ∃ front c, dropEnd p text = front ++ [c] ∧ p c = false := by
  induction text with
  | nil => exact Or.inl rfl
  | cons c rest ih =>
    simp only [dropEnd]
    split
    · by_cases hc : p c = true
      · exact Or.inl (by simp [hc])
      · exact Or.inr ⟨[], c, by simp [hc], by simpa using hc⟩
    · next hne =>
      rcases ih with hnil | ⟨front, d, hfront, hd⟩
      · exact absurd hnil hne
      · exact Or.inr ⟨c :: front, d, by rw [hfront, List.cons_append], hd⟩

end GridAccess.Text
