import GridAccess.Json.Reader
import GridAccess.Json.Writer

/-!
# Reading texts in JSON

A text is read back from what is written for it, whatever follows. Each byte is written as one
piece: as itself, with an escape of one letter, or as a unit. Control characters are the only bytes
that are written as units, and they are characters of one byte, so that each piece denotes the byte
again.

## Main statements

- `Json.exists_piece` — what is written for a byte is read as one piece that denotes the byte
- `Json.text?_writeBytes` — a text is read back
-/

namespace GridAccess.Json

open Text

/-! ## Pieces -/

section Pieces

variable {b e : UInt8} {rest : List UInt8}

theorem pieces?_letter (he : e ≠ 0x75) (h : letter? e = some b) (rest : List UInt8) :
    pieces? (0x5C :: e :: rest) =
      (pieces? rest).map fun found => (.byte b :: found.1, found.2) := by
  rw [pieces?.eq_3 e rest fun _ _ _ _ _ heq _ => he heq, h]
  cases pieces? rest <;> rfl

theorem pieces?_unit {a b c d : UInt8} {unit : Nat} (h : unit? a b c d = some unit)
    (rest : List UInt8) :
    pieces? (0x5C :: 0x75 :: a :: b :: c :: d :: rest) =
      (pieces? rest).map fun found => (.unit unit :: found.1, found.2) := by
  rw [pieces?, h]
  cases pieces? rest <;> rfl

theorem pieces?_plain (hquote : b ≠ 0x22) (hslash : b ≠ 0x5C) (hcontrol : ¬b < 0x20)
    (rest : List UInt8) :
    pieces? (b :: rest) = (pieces? rest).map fun found => (.byte b :: found.1, found.2) := by
  have hno : ¬(b < 0x20 ∨ b = 0x5C) := not_or.2 ⟨hcontrol, hslash⟩
  rw [pieces?.eq_4 b rest (fun _ _ _ _ _ heq _ => hslash heq) (fun _ _ heq _ => hslash heq),
    if_neg hquote, if_neg hno]
  cases pieces? rest <;> rfl

theorem pieces?_quote (rest : List UInt8) : pieces? (0x22 :: rest) = some ([], rest) := by
  rw [pieces?.eq_4 0x22 rest (by simp) (by simp), if_pos rfl]

/-- A unit below those of pairs denotes its character, whatever follows. -/
theorem bytes?_unit {unit : Nat} (h : unit < 0xD800) (more : List Piece) :
    bytes? (.unit unit :: more) = (bytes? more).map (codePointBytes unit ++ ·) := by
  have hhigh : ¬(0xD800 ≤ unit ∧ unit < 0xDC00) := by omega
  have hlow : ¬(0xDC00 ≤ unit ∧ unit < 0xE000) := by omega
  have hpair : ¬(0xD800 ≤ unit ∧ unit < 0xE000) := by omega
  cases more with
  | nil => rw [bytes?.eq_4 unit [] (by simp), if_neg hpair]
  | cons piece more =>
    cases piece with
    | byte b => rw [bytes?.eq_4 unit _ (by simp), if_neg hpair]
    | unit low => rw [bytes?, if_neg hhigh, if_neg hlow]

/-- The control characters are written with two digits, and are characters of one byte. -/
theorem control_plain : ∀ n : Fin 32,
    unit? 0x30 0x30 (if UInt8.ofNat n < 0x10 then 0x30 else 0x31)
        (UInt8.ofNat (Hex.digit ((UInt8.ofNat n).toNat % 16)).toNat) = some n.val ∧
      codePointBytes n = [UInt8.ofNat n] := by
  decide +kernel

/-- What is written for a byte is read as one piece, whatever follows, and the piece denotes the
byte. -/
theorem exists_piece (b : UInt8) :
    ∃ piece, (∀ rest, pieces? (writeByte b ++ rest) =
        (pieces? rest).map fun found => (piece :: found.1, found.2)) ∧
      ∀ more, bytes? (piece :: more) = (bytes? more).map (b :: ·) := by
  have hbyte : ∀ more, bytes? (.byte b :: more) = (bytes? more).map (b :: ·) := fun _ => rfl
  fun_cases writeByte b with
  | case8 _ _ _ _ _ _ _ hcontrol =>
    have hlt : b.toNat < 32 := UInt8.lt_iff_toNat_lt.1 hcontrol
    obtain ⟨hunit, hbytes⟩ := control_plain ⟨b.toNat, hlt⟩
    simp only [UInt8.ofNat_toNat] at hunit hbytes
    refine ⟨.unit b.toNat, pieces?_unit hunit, ?_⟩
    intro more
    rw [bytes?_unit (by omega), hbytes]
    rfl
  | case9 hquote hslash _ _ _ _ _ hcontrol =>
    exact ⟨.byte b, pieces?_plain hquote hslash hcontrol, hbyte⟩
  | _ =>
    subst_vars
    exact ⟨_, pieces?_letter (by decide) (by decide), hbyte⟩

/-- The pieces that are read of what is written for bytes denote these bytes. -/
theorem exists_pieces (bytes : List UInt8) :
    ∃ pieces, (∀ rest, pieces? (writeBytes bytes ++ 0x22 :: rest) = some (pieces, rest)) ∧
      bytes? pieces = some bytes := by
  induction bytes with
  | nil => exact ⟨[], pieces?_quote, rfl⟩
  | cons b bytes ih =>
    obtain ⟨piece, hread, hdenotes⟩ := exists_piece b
    obtain ⟨pieces, hpieces, hbytes⟩ := ih
    refine ⟨piece :: pieces, ?_, ?_⟩
    · intro rest
      rw [writeBytes, List.flatMap_cons, ← writeBytes, List.append_assoc, hread, hpieces]
      rfl
    · rw [hdenotes, hbytes]
      rfl

end Pieces

/-- A text is read back from what stands behind its opening quote. -/
theorem text?_writeBytes (text : String) (rest : List UInt8) :
    text? (writeBytes (Utf8.encode text) ++ 0x22 :: rest) = some (some text, rest) := by
  obtain ⟨pieces, hpieces, hbytes⟩ := exists_pieces (Utf8.encode text)
  rw [text?, hpieces, Option.map_some, textOf, hbytes, Option.bind_some, Utf8.decode?_encode]

end GridAccess.Json
