import GridAccess.Proofs.Text.Escapes

/-!
# What percent escapes denote

The bytes that a text with escapes denotes, said character by character: a percent sign with two
digits stands for the byte with that number, and every other character for its own bytes. Reading
finds these bytes, and a text is read exactly if they are those of a text.

## Main definitions

- `Percent.StartsEscape` — a text that starts with an escape
- `Percent.Denotes` — the bytes that a text denotes

## Main statements

- `Percent.denotes_iff` — the bytes denoted are those that reading finds
- `Percent.unescape?_eq_some_iff` — which texts are read, and as what
-/

namespace GridAccess.Text

/-- All digits are ASCII. -/
theorem Hex.toNat_lt_of_value? {c : Char} {n : Nat} (h : value? c = some n) : c.toNat < 0x80 := by
  rw [value?] at h
  grind

namespace Percent

/-- A text that starts with a percent sign and two digits. -/
def StartsEscape (text : List Char) : Prop :=
  ∃ a b rest, text = '%' :: a :: b :: rest ∧ (Hex.value? a).isSome ∧ (Hex.value? b).isSome

/-- The bytes that a text with escapes denotes. A percent sign that does not start an escape stands
for itself. -/
inductive Denotes : List Char → List UInt8 → Prop
  | nil : Denotes [] []
  | escape {a b : Char} {high low : Nat} {rest : List Char} {bytes : List UInt8}
      (hhigh : Hex.value? a = some high) (hlow : Hex.value? b = some low)
      (hrest : Denotes rest bytes) :
      Denotes ('%' :: a :: b :: rest) (UInt8.ofNat (16 * high + low) :: bytes)
  | char {c : Char} {rest : List Char} {bytes : List UInt8} (hplain : ¬StartsEscape (c :: rest))
      (hrest : Denotes rest bytes) :
      Denotes (c :: rest) (String.utf8EncodeChar c ++ bytes)

/-! ## Digits and their bytes -/

/-- A digit is read from its byte. -/
theorem hexByte?_of_value? {c : Char} {n : Nat} (h : Hex.value? c = some n) :
    hexByte? (UInt8.ofNat c.toNat) = some (UInt8.ofNat n) := by
  have hlt := Hex.toNat_lt_of_value? h
  rw [hexByte?, UInt8.toNat_ofNat_of_lt' (Nat.lt_trans hlt (by decide)), Char.ofNat_toNat, h]
  rfl

/-- A byte that is not below 128 is no digit. -/
theorem hexByte?_eq_none {b : UInt8} (h : 0x80 ≤ b.toNat) : hexByte? b = none := by
  have hall : ∀ k : Fin 128, hexByte? (UInt8.ofNat (0x80 + k.val)) = none := by decide
  have hlt : b.toNat - 0x80 < 128 := by
    have hb := b.toNat_lt
    omega
  have hbyte := hall ⟨_, hlt⟩
  rwa [Nat.add_sub_cancel' h, UInt8.ofNat_toNat] at hbyte

variable {text rest : List Char} {bytes more : List UInt8}

/-- A first byte that is read as a digit is that of a digit. -/
theorem exists_digit_of_hexByte? {b value : UInt8}
    (hbytes : text.flatMap String.utf8EncodeChar = b :: more) (hb : hexByte? b = some value) :
    ∃ c rest, text = c :: rest ∧ (Hex.value? c).isSome ∧
      more = rest.flatMap String.utf8EncodeChar := by
  cases text with
  | nil => cases hbytes
  | cons c rest =>
    rw [List.flatMap_cons] at hbytes
    by_cases hc : c.toNat < 0x80
    · rw [Utf8.utf8EncodeChar_of_lt hc, List.singleton_append, List.cons.injEq] at hbytes
      obtain ⟨rfl, rfl⟩ := hbytes
      rw [hexByte?, UInt8.toNat_ofNat_of_lt' (Nat.lt_trans hc (by decide)), Char.ofNat_toNat,
        Option.map_eq_some_iff] at hb
      obtain ⟨n, hn, -⟩ := hb
      exact ⟨c, rest, rfl, Option.isSome_of_eq_some hn, rfl⟩
    · have hmem : b ∈ String.utf8EncodeChar c := by
        have hne : String.utf8EncodeChar c ≠ [] := String.utf8EncodeChar_ne_nil
        obtain ⟨first, others, hfirst⟩ := List.exists_cons_of_ne_nil hne
        rw [hfirst, List.cons_append, List.cons.injEq] at hbytes
        rw [hfirst, hbytes.1]
        exact List.mem_cons_self
      have hnone := hexByte?_eq_none (Utf8.le_of_mem_utf8EncodeChar (Nat.le_of_not_lt hc) b hmem)
      rw [hnone] at hb
      cases hb

/-! ## The bytes of a text -/

/-- A percent sign that does not start an escape stands for itself. -/
theorem unescapeBytes_percent (hplain : ¬StartsEscape ('%' :: rest)) :
    unescapeBytes (0x25 :: rest.flatMap String.utf8EncodeChar) =
      0x25 :: unescapeBytes (rest.flatMap String.utf8EncodeChar) := by
  rcases hbytes : rest.flatMap String.utf8EncodeChar with _ | ⟨a, _ | ⟨b, more⟩⟩
  · exact unescapeBytes.eq_2 _ _ (by simp)
  · exact unescapeBytes.eq_2 _ _ (by simp)
  · rw [unescapeBytes]
    split
    · next high low ha hb =>
      -- Two bytes that are read as digits are those of two characters.
      obtain ⟨first, tail, rfl, hfirst, htail⟩ := exists_digit_of_hexByte? hbytes ha
      obtain ⟨second, tail, rfl, hsecond, -⟩ := exists_digit_of_hexByte? htail.symm hb
      exact absurd ⟨first, second, tail, rfl, hfirst, hsecond⟩ hplain
    · rfl

theorem unescapeBytes_flatMap_cons {c : Char} (hplain : ¬StartsEscape (c :: rest)) :
    unescapeBytes ((c :: rest).flatMap String.utf8EncodeChar) =
      String.utf8EncodeChar c ++ unescapeBytes (rest.flatMap String.utf8EncodeChar) := by
  by_cases hpercent : c = '%'
  · subst hpercent
    exact unescapeBytes_percent hplain
  · exact unescapeBytes_append (Utf8.percent_not_mem_utf8EncodeChar hpercent) _

theorem unescapeBytes_flatMap_escape {a b : Char} {high low : Nat}
    (hhigh : Hex.value? a = some high) (hlow : Hex.value? b = some low) (rest : List Char) :
    unescapeBytes (('%' :: a :: b :: rest).flatMap String.utf8EncodeChar) =
      UInt8.ofNat (16 * high + low) :: unescapeBytes (rest.flatMap String.utf8EncodeChar) := by
  have hpercent : String.utf8EncodeChar '%' = [0x25] := rfl
  rw [List.flatMap_cons, List.flatMap_cons, List.flatMap_cons, hpercent,
    Utf8.utf8EncodeChar_of_lt (Hex.toNat_lt_of_value? hhigh),
    Utf8.utf8EncodeChar_of_lt (Hex.toNat_lt_of_value? hlow)]
  show unescapeBytes (0x25 :: _ :: _ :: _) = _
  rw [unescapeBytes_escape (hexByte?_of_value? hhigh) (hexByte?_of_value? hlow)]
  simp

/-- A text denotes the bytes that reading finds, and no others. -/
theorem denotes_iff :
    Denotes text bytes ↔ unescapeBytes (text.flatMap String.utf8EncodeChar) = bytes := by
  constructor
  · intro h
    induction h with
    | nil => simp [unescapeBytes]
    | escape hhigh hlow _ ih => rw [unescapeBytes_flatMap_escape hhigh hlow, ih]
    | char hplain _ ih => rw [unescapeBytes_flatMap_cons hplain, ih]
  · rintro rfl
    -- An escape takes three characters at once.
    induction hlength : text.length using Nat.strongRecOn generalizing text with
    | ind length ih =>
    subst hlength
    cases text with
    | nil => simpa [unescapeBytes] using Denotes.nil
    | cons c rest =>
      by_cases hescape : StartsEscape (c :: rest)
      · obtain ⟨a, b, tail, htext, ha, hb⟩ := hescape
        obtain ⟨high, hhigh⟩ := Option.isSome_iff_exists.1 ha
        obtain ⟨low, hlow⟩ := Option.isSome_iff_exists.1 hb
        rw [htext, unescapeBytes_flatMap_escape hhigh hlow]
        exact .escape hhigh hlow (ih tail.length (by simp [htext]; omega) rfl)
      · rw [unescapeBytes_flatMap_cons hescape]
        exact .char hescape (ih rest.length (by simp) rfl)

/-- A text is read as the text whose bytes it denotes. -/
theorem unescape?_eq_some_iff {text value : String} :
    unescape? text = some value ↔ Denotes text.toList (Utf8.encode value) := by
  have hencode : Utf8.encode text = text.toList.flatMap String.utf8EncodeChar := by
    rw [← Utf8.encode_ofList, String.ofList_toList]
  rw [denotes_iff, unescape?, hencode]
  constructor
  · intro h
    exact (Utf8.encode_of_decode? h).symm
  · intro h
    rw [h, Utf8.decode?_encode]

end Percent

end GridAccess.Text
