import GridAccess.Text.Base64
import GridAccess.Text.Blank

/-!
# Reading base64

Both forms of bytes are read back as these bytes. The characters of the padded form are symbols of
the alphabet and padding, and nothing else can be read. The form for URLs holds no dots.

## Main statements

- `decodePadded?_encodePadded`, `decodeUrl?_encodeUrl` — both forms are read back
- `mem_encodePadded` — the characters of the padded form
- `mem_of_decodePadded?` — what is read has no other characters
-/

namespace GridAccess.Text.Base64

theorem symbol_ne_padding (alphabet : Alphabet) {n : Nat} (h : n < 64) :
    symbol alphabet n ≠ '=' := by
  have hall : ∀ k : Fin 64, symbol alphabet k.val ≠ '=' := by
    cases alphabet <;> decide
  exact hall ⟨n, h⟩

/-- The first two symbols of a last byte are read back as that byte. -/
theorem unlastOne?_lastOne (alphabet : Alphabet) (a : UInt8) :
    ∃ x y, lastOne alphabet a = [x, y] ∧ unlastOne? alphabet x y = some [a] := by
  refine ⟨_, _, rfl, ?_⟩
  have ha := a.toNat_lt
  have hzero : (0 : UInt8).toNat = 0 := rfl
  unfold unlastOne?
  rw [value?_symbol _ (by omega), value?_symbol _ (by omega)]
  simp only [Option.bind_eq_bind, Option.bind_some, hzero]
  rw [if_pos (by omega)]
  congr 2
  apply UInt8.toNat_inj.1
  simp
  omega

/-- The first three symbols of two last bytes are read back as these bytes, and the third is no
padding. -/
theorem unlastTwo?_lastTwo (alphabet : Alphabet) (a b : UInt8) :
    ∃ x y z, lastTwo alphabet a b = [x, y, z] ∧ z ≠ '=' ∧
      unlastTwo? alphabet x y z = some [a, b] := by
  have ha := a.toNat_lt
  have hb := b.toNat_lt
  refine ⟨_, _, _, rfl, symbol_ne_padding _ (by omega), ?_⟩
  have hzero : (0 : UInt8).toNat = 0 := rfl
  unfold unlastTwo?
  rw [value?_symbol _ (by omega), value?_symbol _ (by omega), value?_symbol _ (by omega)]
  simp only [Option.bind_eq_bind, Option.bind_some, hzero]
  rw [if_pos (by omega)]
  simp only [Option.some.injEq, List.cons.injEq, and_true]
  refine ⟨?_, ?_⟩ <;> apply UInt8.toNat_inj.1 <;> simp <;> omega

theorem group_last_ne_padding {alphabet : Alphabet} {a b c : UInt8} {x y z w : Char}
    (h : group alphabet a b c = [x, y, z, w]) : w ≠ '=' := by
  simp only [group, List.cons.injEq, and_true] at h
  rw [← h.2.2.2]
  exact symbol_ne_padding _ (by omega)

theorem decodePadded?_encodePadded (bytes : List UInt8) :
    decodePadded? (encodePadded bytes) = some bytes := by
  fun_induction encodePadded bytes with
  | case1 => rfl
  | case2 a =>
    obtain ⟨x, y, hxy, hread⟩ := unlastOne?_lastOne .standard a
    rw [hxy]
    show decodePadded? [x, y, '=', '='] = _
    simp [decodePadded?, hread]
  | case3 a b =>
    obtain ⟨x, y, z, hxyz, hz, hread⟩ := unlastTwo?_lastTwo .standard a b
    rw [hxyz]
    show decodePadded? [x, y, z, '='] = _
    simp [decodePadded?, hz, hread]
  | case4 a b c rest ih =>
    obtain ⟨x, y, z, w, hgroup, hread⟩ := ungroup?_group .standard a b c
    have hw := group_last_ne_padding hgroup
    rw [hgroup]
    show decodePadded? (x :: y :: z :: w :: encodePadded rest) = _
    simp [decodePadded?, hw, hread, ih]

theorem mem_group {alphabet : Alphabet} {a b c : UInt8} {x : Char}
    (h : x ∈ group alphabet a b c) : ∃ n < 64, x = symbol alphabet n := by
  have ha := a.toNat_lt
  have hb := b.toNat_lt
  have hc := c.toNat_lt
  simp only [group, List.mem_cons, List.not_mem_nil, or_false] at h
  rcases h with rfl | rfl | rfl | rfl
  all_goals exact ⟨_, by omega, rfl⟩

/-- The characters of the padded form are padding and symbols. -/
theorem mem_encodePadded {bytes : List UInt8} {x : Char} (h : x ∈ encodePadded bytes) :
    x = '=' ∨ ∃ n < 64, x = symbol .standard n := by
  fun_induction encodePadded bytes with
  | case1 => cases h
  | case2 a =>
    rcases List.mem_append.1 h with hmem | hmem
    · exact Or.inr (mem_group (List.mem_of_mem_take hmem))
    · exact Or.inl (by simpa using hmem)
  | case3 a b =>
    rcases List.mem_append.1 h with hmem | hmem
    · exact Or.inr (mem_group (List.mem_of_mem_take hmem))
    · exact Or.inl (by simpa using hmem)
  | case4 a b c rest ih =>
    rcases List.mem_append.1 h with hmem | hmem
    · exact Or.inr (mem_group hmem)
    · exact ih hmem

theorem isBlank_of_mem_encodePadded {bytes : List UInt8} {x : Char}
    (h : x ∈ encodePadded bytes) : isBlank x = false := by
  have hall : ∀ k : Fin 64, isBlank (symbol .standard k.val) = false := by decide
  rcases mem_encodePadded h with rfl | ⟨n, hn, rfl⟩
  · decide
  · exact hall ⟨n, hn⟩

/-- Ampersands, percent signs, hyphens and tags are not in the padded form. -/
theorem ne_of_mem_encodePadded {bytes : List UInt8} {x : Char} (h : x ∈ encodePadded bytes) :
    x ≠ '&' ∧ x ≠ '%' ∧ x ≠ '-' ∧ x ≠ '<' := by
  have hall : ∀ k : Fin 64, symbol .standard k.val ≠ '&' ∧ symbol .standard k.val ≠ '%' ∧
      symbol .standard k.val ≠ '-' ∧ symbol .standard k.val ≠ '<' := by
    decide
  rcases mem_encodePadded h with rfl | ⟨n, hn, rfl⟩
  · decide
  · exact hall ⟨n, hn⟩

/-! ## The form for URLs -/

theorem decodeUrl?_encodeUrl (bytes : List UInt8) : decodeUrl? (encodeUrl bytes) = some bytes := by
  fun_induction encodeUrl bytes with
  | case1 => rfl
  | case2 a =>
    obtain ⟨x, y, hxy, hread⟩ := unlastOne?_lastOne .url a
    rw [hxy]
    exact hread
  | case3 a b =>
    obtain ⟨x, y, z, hxyz, -, hread⟩ := unlastTwo?_lastTwo .url a b
    rw [hxyz]
    exact hread
  | case4 a b c rest ih =>
    obtain ⟨x, y, z, w, hgroup, hread⟩ := ungroup?_group .url a b c
    rw [hgroup]
    show decodeUrl? (x :: y :: z :: w :: encodeUrl rest) = _
    simp [decodeUrl?, hread, ih]

theorem mem_encodeUrl {bytes : List UInt8} {x : Char} (h : x ∈ encodeUrl bytes) :
    ∃ n < 64, x = symbol .url n := by
  fun_induction encodeUrl bytes with
  | case1 => cases h
  | case2 a => exact mem_group (List.mem_of_mem_take h)
  | case3 a b => exact mem_group (List.mem_of_mem_take h)
  | case4 a b c rest ih =>
    rcases List.mem_append.1 h with hmem | hmem
    · exact mem_group hmem
    · exact ih hmem

theorem dot_not_mem_encodeUrl (bytes : List UInt8) : '.' ∉ encodeUrl bytes := by
  have hall : ∀ k : Fin 64, '.' ≠ symbol .url k.val := by decide
  intro hdot
  obtain ⟨n, hn, heq⟩ := mem_encodeUrl hdot
  exact hall ⟨n, hn⟩ heq

/-! ## What can be read -/

/-- Whether a character may stand in the padded form. -/
def IsPaddedChar (c : Char) : Prop :=
  c = '=' ∨ (value? .standard c).isSome

/-- What is read has only characters of the padded form. -/
theorem mem_of_decodePadded? {text : List Char} {bytes : List UInt8}
    (h : decodePadded? text = some bytes) : ∀ c ∈ text, IsPaddedChar c := by
  have hvalue : ∀ {c : Char} {n : Nat}, value? .standard c = some n → IsPaddedChar c := by
    intro c n hc
    exact Or.inr (by rw [hc]; rfl)
  fun_induction decodePadded? text generalizing bytes with
  | case1 => simp
  | case2 => cases h
  | case3 a b rest hrest =>
    simp only [unlastOne?, Option.bind_eq_bind, Option.bind_eq_some_iff] at h
    obtain ⟨x, hx, y, hy, -⟩ := h
    have hnil : rest = [] := Decidable.not_not.1 hrest
    simp only [hnil, List.mem_cons, List.not_mem_nil, or_false]
    rintro c (rfl | rfl | rfl | rfl)
    · exact hvalue hx
    · exact hvalue hy
    · exact Or.inl rfl
    · exact Or.inl rfl
  | case4 a b c rest hrest hc =>
    simp only [unlastTwo?, Option.bind_eq_bind, Option.bind_eq_some_iff] at h
    obtain ⟨x, hx, y, hy, z, hz, -⟩ := h
    have hnil : rest = [] := Decidable.not_not.1 hrest
    simp only [hnil, List.mem_cons, List.not_mem_nil, or_false]
    rintro c (rfl | rfl | rfl | rfl)
    · exact hvalue hx
    · exact hvalue hy
    · exact hvalue hz
    · exact Or.inl rfl
  | case5 a b c d rest hd ih =>
    simp only [ungroup?, Option.bind_eq_bind, Option.bind_eq_some_iff] at h
    obtain ⟨_, ⟨x, hx, y, hy, z, hz, w, hw, -⟩, _, hmore, -⟩ := h
    simp only [List.mem_cons]
    rintro c (rfl | rfl | rfl | rfl | hmem)
    · exact hvalue hx
    · exact hvalue hy
    · exact hvalue hz
    · exact hvalue hw
    · exact ih hmore c hmem
  | case6 => cases h

end GridAccess.Text.Base64
