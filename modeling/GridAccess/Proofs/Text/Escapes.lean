import GridAccess.Proofs.Text.Occurrence
import GridAccess.Text.Markup
import GridAccess.Text.Percent

/-!
# Reading escaped values

An escaped value is read back as the value, in either form of envelopes. So is a value of the
delimited form all of whose bytes are escaped, which is never done in writing, but read all the
same.

A mark without the characters that escapes replace or are made of occurs in an escaped value exactly
if it occurs in the value.

## Main definitions

- `Percent.escapeAll` — a text with all of its bytes escaped
- `Percent.involved`, `Markup.involved` — the characters that escapes replace or are made of

## Main statements

- `flatMap_eq_self` — a text is not changed if all of its characters are written as they are
- `Utf8.encode_injective` — texts are determined by their bytes
- `Percent.unescape?_escape`, `Percent.unescape?_escapeAll` — escaped texts are read back
- `Percent.unescape?_of_not_mem` — a text without percent signs stands for itself
- `Percent.mem_escapeAll` — the characters of a text with all bytes escaped
- `Markup.unescape?_escape` — texts with entities are read back
- `Percent.isInfix_escape_iff`, `Markup.isInfix_escape_iff` — escapes make and break no marks
-/

namespace GridAccess.Text

/-- A text is not changed if all of its characters are written as they are. -/
theorem flatMap_eq_self {write : Char → List Char} {text : List Char}
    (h : ∀ c ∈ text, write c = [c]) : text.flatMap write = text := by
  induction text with
  | nil => rfl
  | cons c text ih =>
    rw [List.flatMap_cons, h c List.mem_cons_self, ih fun d hd => h d (List.mem_cons_of_mem _ hd),
      List.singleton_append]

namespace Utf8

theorem encode_ofList (text : List Char) :
    encode (String.ofList text) = text.flatMap String.utf8EncodeChar := by
  rw [encode, String.toByteArray_ofList, List.utf8Encode, List.toList_data_toByteArray]

theorem encode_injective {a b : String} (h : encode a = encode b) : a = b := by
  have hdecode := congrArg decode? h
  rw [decode?_encode, decode?_encode] at hdecode
  exact Option.some.inj hdecode

/-- A character below 128 is one byte. -/
theorem utf8EncodeChar_of_lt {c : Char} (h : c.toNat < 0x80) :
    String.utf8EncodeChar c = [UInt8.ofNat c.toNat] := by
  have hone : c.val.toNat ≤ 0x7f := Nat.le_of_lt_succ h
  rw [String.utf8EncodeChar]
  simp only [hone, if_true]
  rfl

/-- No byte of any other character is below 128. -/
theorem le_of_mem_utf8EncodeChar {c : Char} (h : 0x80 ≤ c.toNat) :
    ∀ b ∈ String.utf8EncodeChar c, 0x80 ≤ b.toNat := by
  have hval : c.val.toNat = c.toNat := rfl
  have hhigh : ∀ n, 0x80 ≤ n → n < 0x100 → 0x80 ≤ (UInt8.ofNat n).toNat := by
    intro n hge hlt
    rwa [UInt8.toNat_ofNat_of_lt' hlt]
  fun_cases String.utf8EncodeChar c with
  | case1 v hone => omega
  | case2 v hone htwo =>
    simp only [List.mem_cons, List.not_mem_nil, or_false, forall_eq_or_imp, forall_eq]
    refine ⟨?_, ?_⟩
    all_goals exact hhigh _ (by omega) (by omega)
  | case3 v hone htwo hthree =>
    simp only [List.mem_cons, List.not_mem_nil, or_false, forall_eq_or_imp, forall_eq]
    refine ⟨?_, ?_, ?_⟩
    all_goals exact hhigh _ (by omega) (by omega)
  | case4 v hone htwo hthree =>
    simp only [List.mem_cons, List.not_mem_nil, or_false, forall_eq_or_imp, forall_eq]
    refine ⟨?_, ?_, ?_, ?_⟩
    all_goals exact hhigh _ (by omega) (by omega)

/-- The byte of the percent sign is in no other character. -/
theorem percent_not_mem_utf8EncodeChar {c : Char} (h : c ≠ '%') :
    (0x25 : UInt8) ∉ String.utf8EncodeChar c := by
  intro hmem
  by_cases hlt : c.toNat < 0x80
  · rw [utf8EncodeChar_of_lt hlt, List.mem_singleton] at hmem
    have hnat := congrArg UInt8.toNat hmem
    rw [UInt8.toNat_ofNat_of_lt' (Nat.lt_trans hlt (by decide))] at hnat
    exact h (Char.ext (UInt32.toNat_inj.1 hnat.symm))
  · exact absurd (le_of_mem_utf8EncodeChar (Nat.le_of_not_lt hlt) _ hmem) (by decide)

end Utf8

namespace Percent

/-- Bytes other than that of the percent sign stand for themselves. -/
theorem unescapeBytes_append {bytes : List UInt8} (h : (0x25 : UInt8) ∉ bytes)
    (rest : List UInt8) : unescapeBytes (bytes ++ rest) = bytes ++ unescapeBytes rest := by
  induction bytes with
  | nil => rfl
  | cons b bytes ih =>
    have hb : b ≠ 0x25 := fun heq => h (by simp [heq])
    have hbytes : (0x25 : UInt8) ∉ bytes := fun hmem => h (List.mem_cons_of_mem _ hmem)
    rw [List.cons_append, unescapeBytes.eq_2 b (bytes ++ rest) (fun _ _ _ heq _ => hb heq),
      ih hbytes, List.cons_append]

/-- A percent sign and two digits stand for one byte. -/
theorem unescapeBytes_escape {a b high low : UInt8} (ha : hexByte? a = some high)
    (hb : hexByte? b = some low) (rest : List UInt8) :
    unescapeBytes (0x25 :: a :: b :: rest) = (16 * high + low) :: unescapeBytes rest := by
  rw [unescapeBytes, ha, hb]

/-- The bytes of an escaped character are read as the bytes of the character. -/
theorem unescapeBytes_escapeChar (c : Char) (rest : List UInt8) :
    unescapeBytes ((escapeChar c).flatMap String.utf8EncodeChar ++ rest) =
      String.utf8EncodeChar c ++ unescapeBytes rest := by
  by_cases hpercent : c = '%'
  · subst hpercent
    exact unescapeBytes_escape (by decide : hexByte? _ = some 2)
      (by decide : hexByte? _ = some 5) rest
  by_cases hamp : c = '&'
  · subst hamp
    exact unescapeBytes_escape (by decide : hexByte? _ = some 2)
      (by decide : hexByte? _ = some 6) rest
  by_cases hequals : c = '='
  · subst hequals
    exact unescapeBytes_escape (by decide : hexByte? _ = some 3)
      (by decide : hexByte? _ = some 13) rest
  -- Any other character is written as it is, and its bytes start no escape.
  have hplain : escapeChar c = [c] := by simp [escapeChar, hpercent, hamp, hequals]
  rw [hplain, List.flatMap_singleton]
  exact unescapeBytes_append (Utf8.percent_not_mem_utf8EncodeChar hpercent) rest

theorem unescape?_escape (text : List Char) :
    unescape? (String.ofList (escape text)) = some (String.ofList text) := by
  have hbytes : unescapeBytes ((escape text).flatMap String.utf8EncodeChar) =
      text.flatMap String.utf8EncodeChar := by
    induction text with
    | nil => simp [escape, unescapeBytes]
    | cons c text ih =>
      rw [escape, List.flatMap_cons, List.flatMap_append, unescapeBytes_escapeChar, ← escape, ih,
        List.flatMap_cons]
  rw [unescape?, Utf8.encode_ofList, hbytes, ← Utf8.encode_ofList, Utf8.decode?_encode]

theorem unescape?_of_not_mem {text : List Char} (h : '%' ∉ text) :
    unescape? (String.ofList text) = some (String.ofList text) := by
  have hbytes : (0x25 : UInt8) ∉ text.flatMap String.utf8EncodeChar := by
    rw [List.mem_flatMap]
    rintro ⟨c, hc, hbyte⟩
    exact Utf8.percent_not_mem_utf8EncodeChar (fun heq => h (heq ▸ hc)) hbyte
  have hplain : unescapeBytes (text.flatMap String.utf8EncodeChar) =
      text.flatMap String.utf8EncodeChar := by
    have happend := unescapeBytes_append hbytes []
    simpa [unescapeBytes] using happend
  rw [unescape?, Utf8.encode_ofList, hplain, ← Utf8.encode_ofList, Utf8.decode?_encode]

/-- The characters that are escaped and those of the escapes. -/
def involved : List Char :=
  ['%', '&', '=', '2', '3', '5', '6', 'D']

/-- Escapes neither make nor break a mark that has none of their characters. -/
theorem isInfix_escape_iff {mark : List Char} (hmark : mark ≠ []) (h : involved.Disjoint mark)
    (text : List Char) : mark <:+: escape text ↔ mark <:+: text := by
  apply isInfix_flatMap_iff hmark
  refine writesApart_of_involved ?_ ?_ h
  · intro c hc
    simp only [involved, List.mem_cons, not_or] at hc
    simp only [escapeChar, hc, if_false]
  · simp [involved, escapeChar]

/-! ## All bytes escaped -/

/-- A byte as a percent sign and two digits. -/
def escapeByte (b : UInt8) : List Char :=
  ['%', Hex.digit (b.toNat / 16), Hex.digit (b.toNat % 16)]

/-- A text with all of its bytes escaped. -/
def escapeAll (text : String) : List Char :=
  (Utf8.encode text).flatMap escapeByte

theorem hexByte?_digit {n : Nat} (h : n < 16) :
    ∃ b, String.utf8EncodeChar (Hex.digit n) = [b] ∧ hexByte? b = some (UInt8.ofNat n) := by
  have hall : ∀ k : Fin 16, String.utf8EncodeChar (Hex.digit k.val) =
      [UInt8.ofNat (Hex.digit k.val).toNat] ∧
      hexByte? (UInt8.ofNat (Hex.digit k.val).toNat) = some (UInt8.ofNat k.val) := by decide
  exact ⟨_, hall ⟨n, h⟩⟩

theorem unescapeBytes_escapeByte (b : UInt8) (rest : List UInt8) :
    unescapeBytes ((escapeByte b).flatMap String.utf8EncodeChar ++ rest) =
      b :: unescapeBytes rest := by
  have hb := b.toNat_lt
  obtain ⟨high, hhigh, hhighvalue⟩ := hexByte?_digit (n := b.toNat / 16) (by omega)
  obtain ⟨low, hlow, hlowvalue⟩ := hexByte?_digit (n := b.toNat % 16) (by omega)
  have hpercent : String.utf8EncodeChar '%' = [0x25] := rfl
  have hsum : 16 * UInt8.ofNat (b.toNat / 16) + UInt8.ofNat (b.toNat % 16) = b := by
    apply UInt8.toNat_inj.1
    simp
    omega
  rw [escapeByte, List.flatMap_cons, List.flatMap_cons, List.flatMap_singleton, hpercent, hhigh,
    hlow]
  show unescapeBytes (0x25 :: high :: low :: rest) = _
  rw [unescapeBytes_escape hhighvalue hlowvalue, hsum]

theorem unescape?_escapeAll (text : String) :
    unescape? (String.ofList (escapeAll text)) = some text := by
  have hbytes : ∀ bytes : List UInt8,
      unescapeBytes ((bytes.flatMap escapeByte).flatMap String.utf8EncodeChar) = bytes := by
    intro bytes
    induction bytes with
    | nil => simp [unescapeBytes]
    | cons b bytes ih =>
      rw [List.flatMap_cons, List.flatMap_append, unescapeBytes_escapeByte, ih]
  rw [unescape?, Utf8.encode_ofList, escapeAll, hbytes, Utf8.decode?_encode]

/-- The characters of a text with all bytes escaped are percent signs and digits. -/
theorem mem_escapeAll {text : String} {c : Char} (h : c ∈ escapeAll text) :
    c = '%' ∨ ∃ n < 16, c = Hex.digit n := by
  rw [escapeAll, List.mem_flatMap] at h
  obtain ⟨b, -, hc⟩ := h
  have hb := b.toNat_lt
  simp only [escapeByte, List.mem_cons, List.not_mem_nil, or_false] at hc
  rcases hc with rfl | rfl | rfl
  · exact Or.inl rfl
  · exact Or.inr ⟨_, by omega, rfl⟩
  · exact Or.inr ⟨_, by omega, rfl⟩

end Percent

namespace Markup

theorem unescape?_of_ne {c : Char} (h : c ≠ '&') (text : List Char) :
    unescape? (c :: text) = (unescape? text).map (c :: ·) := by
  rw [unescape?, if_neg h]

theorem unescape?_entity {text rest : List Char} {c : Char} (h : entity? text = some (c, rest)) :
    unescape? ('&' :: text) = (unescape? rest).map (c :: ·) := by
  rw [unescape?, if_pos rfl]
  split
  · next found hfound =>
    rw [h] at hfound
    cases hfound
    rfl
  · next hnone =>
    rw [h] at hnone
    cases hnone

/-- An escaped character is read as the character, whatever follows. -/
theorem unescape?_escapeChar (c : Char) (rest : List Char) :
    unescape? (escapeChar c ++ rest) = (unescape? rest).map (c :: ·) := by
  rw [escapeChar]
  by_cases hamp : c = '&'
  · subst hamp
    exact unescape?_entity rfl
  by_cases hlt : c = '<'
  · subst hlt
    exact unescape?_entity rfl
  by_cases hgt : c = '>'
  · subst hgt
    exact unescape?_entity rfl
  by_cases hquote : c = '"'
  · subst hquote
    exact unescape?_entity rfl
  by_cases hapostrophe : c = '\''
  · subst hapostrophe
    exact unescape?_entity rfl
  rw [if_neg hamp, if_neg hlt, if_neg hgt, if_neg hquote, if_neg hapostrophe]
  exact unescape?_of_ne hamp rest

theorem unescape?_escape (text : List Char) : unescape? (escape text) = some text := by
  induction text with
  | nil => simp [escape, unescape?]
  | cons c text ih =>
    rw [escape, List.flatMap_cons, unescape?_escapeChar, ← escape, ih, Option.map_some]

/-- The characters that are escaped and those of the entities. -/
def involved : List Char :=
  ['&', '<', '>', '"', '\'', ';', 'a', 'm', 'p', 'l', 't', 'g', 'q', 'u', 'o', 's']

/-- Entities neither make nor break a mark that has none of their characters. -/
theorem isInfix_escape_iff {mark : List Char} (hmark : mark ≠ []) (h : involved.Disjoint mark)
    (text : List Char) : mark <:+: escape text ↔ mark <:+: text := by
  apply isInfix_flatMap_iff hmark
  refine writesApart_of_involved ?_ ?_ h
  · intro c hc
    simp only [involved, List.mem_cons, not_or] at hc
    simp only [escapeChar, hc, if_false]
  · simp [involved, escapeChar]

end Markup

end GridAccess.Text
