import GridAccess.Proofs.Json.Numeral
import GridAccess.Proofs.Json.Text

/-!
# Reading data in JSON

Data whose texts are there and whose numbers are written as they may be is read back from what is
written for it. Every step of reading takes off a byte or goes into a list or a table, so twice the
number of bytes bounds the steps.

## Main definitions

- `Data.IsWritable` — data that is read back

## Main statements

- `Json.value?_write` — a value is read back, whatever follows
- `Json.parse?_write` — the data of a whole text is read back
-/

namespace GridAccess

open Text

namespace Data

mutual

/-- All texts are there, and numbers are written as they may be. -/
def IsWritable : Data → Prop
  | .null => True
  | .bool _ => True
  | .number numeral => numeral.IsWellFormed
  | .text content => content.isSome
  | .list items => AreWritable items
  | .table fields => AreWritableFields fields

def AreWritable : List Data → Prop
  | [] => True
  | item :: items => IsWritable item ∧ AreWritable items

/-- All names are there, and the values are writable. -/
def AreWritableFields : List (Option String × Data) → Prop
  | [] => True
  | (name, value) :: fields => name.isSome ∧ IsWritable value ∧ AreWritableFields fields

end

end Data

namespace Json

open Data

/-! ## Beginnings -/

/-- Whether values and fields may begin with a byte: it is neither white space nor closes a list. -/
def begins (b : UInt8) : Bool :=
  !isSpace b && b != 0x5D

theorem skipSpace_cons {b : UInt8} (h : begins b = true) (rest : List UInt8) :
    skipSpace (b :: rest) = b :: rest := by
  simp only [begins, Bool.and_eq_true, Bool.not_eq_true'] at h
  rw [skipSpace, List.dropWhile_cons_of_neg (by simp [h.1])]

theorem begins_of_isDigit {b : UInt8} (h : isDigit b = true) : begins b = true := by
  have hall : ∀ n : Fin 256, isDigit (UInt8.ofNat n) = true → begins (UInt8.ofNat n) = true := by
    decide +kernel
  have hb := hall ⟨b.toNat, b.toNat_lt⟩
  simp only [UInt8.ofNat_toNat] at hb
  exact hb h

theorem exists_write_eq : (data : Data) → data.IsWritable →
    ∃ b more, write data = b :: more ∧ begins b = true
  | .null, _ => ⟨_, _, rfl, by decide⟩
  | .bool true, _ => ⟨_, _, rfl, by decide⟩
  | .bool false, _ => ⟨_, _, rfl, by decide⟩
  | .number numeral, h => by
    obtain ⟨b, more, hwrite, hb⟩ := exists_writeNumeral_eq h
    refine ⟨b, more, hwrite, ?_⟩
    rcases hb with rfl | hdigit
    · decide
    · exact begins_of_isDigit hdigit
  | .text (some _), _ => ⟨_, _, rfl, by decide⟩
  | .list _, _ => ⟨_, _, rfl, by decide⟩
  | .table _, _ => ⟨_, _, rfl, by decide⟩

theorem writeItems_cons_cons (item other : Data) (items : List Data) :
    writeItems (item :: other :: items) = write item ++ 0x2C :: writeItems (other :: items) :=
  rfl

theorem writeFields_cons_cons (name : Option String) (value : Data) (other : Option String × Data)
    (fields : List (Option String × Data)) :
    writeFields ((name, value) :: other :: fields) =
      writeContent name ++ 0x3A :: write value ++ 0x2C :: writeFields (other :: fields) :=
  rfl

theorem exists_writeItems_eq {items : List Data} (hne : items ≠ []) (h : AreWritable items) :
    ∃ b more, writeItems items = b :: more ∧ begins b = true := by
  obtain ⟨item, items, rfl⟩ := List.exists_cons_of_ne_nil hne
  obtain ⟨b, more, hwrite, hb⟩ := exists_write_eq item h.1
  cases items with
  | nil => exact ⟨b, more, hwrite, hb⟩
  | cons other items =>
    refine ⟨b, more ++ 0x2C :: writeItems (other :: items), ?_, hb⟩
    rw [writeItems_cons_cons, hwrite, List.cons_append]

theorem exists_writeFields_eq {fields : List (Option String × Data)} (hne : fields ≠ [])
    (h : AreWritableFields fields) : ∃ more, writeFields fields = 0x22 :: more := by
  obtain ⟨⟨name, value⟩, fields, rfl⟩ := List.exists_cons_of_ne_nil hne
  obtain ⟨name, rfl⟩ := Option.isSome_iff_exists.1 h.1
  cases fields with
  | nil => exact ⟨_, rfl⟩
  | cons other fields => exact ⟨_, rfl⟩

theorem writeText_append (content : String) (rest : List UInt8) :
    writeText content ++ rest = 0x22 :: (writeBytes (Utf8.encode content) ++ 0x22 :: rest) := by
  simp [writeText]

/-! ## One step -/

section Step

variable {b : UInt8} (steps : Nat)

theorem value?_number (h : b = 0x2D ∨ isDigit b = true) (more : List UInt8) :
    value? (steps + 1) (b :: more) =
      (numeral? (b :: more)).map fun found => (.number found.1, found.2) := by
  have hbegins : begins b = true := by
    rcases h with rfl | hdigit
    · decide
    · exact begins_of_isDigit hdigit
  rw [value?, skipSpace_cons hbegins]
  split
  case h_7 => rfl
  all_goals
    -- The other kinds of values begin with other bytes.
    next heq =>
    cases heq
    exact absurd h (by decide)

theorem value?_text (content : String) (rest : List UInt8) :
    value? (steps + 1) (writeText content ++ rest) = some (.text (some content), rest) := by
  rw [writeText_append, value?, skipSpace_cons (by decide)]
  simp only [text?_writeBytes, Option.map_some]

theorem value?_list (h : begins b = true) (more : List UInt8) :
    value? (steps + 1) (0x5B :: b :: more) =
      (items? steps (b :: more)).map fun found => (.list found.1, found.2) := by
  rw [value?, skipSpace_cons (by decide)]
  simp only [skipSpace_cons h]
  split
  · next heq =>
    cases heq
    cases h
  · rfl

theorem value?_table (more : List UInt8) :
    value? (steps + 1) (0x7B :: 0x22 :: more) =
      (fields? steps (0x22 :: more)).map fun found => (.table found.1, found.2) :=
  rfl

variable {steps}

theorem fields?_last {value : Data} {input rest : List UInt8}
    (h : value? steps input = some (value, 0x7D :: rest)) (name : String) :
    fields? (steps + 1) (writeText name ++ 0x3A :: input) = some ([(some name, value)], rest) := by
  have hcolon : skipSpace (0x3A :: input) = 0x3A :: input := skipSpace_cons (by decide) _
  have hclose : skipSpace (0x7D :: rest) = 0x7D :: rest := skipSpace_cons (by decide) _
  rw [writeText_append, fields?, skipSpace_cons (by decide)]
  simp only [text?_writeBytes, Option.bind_eq_bind, Option.bind_some, hcolon, h, hclose]
  rfl

theorem fields?_more {value : Data} {input more : List UInt8}
    (h : value? steps input = some (value, 0x2C :: more)) (name : String) :
    fields? (steps + 1) (writeText name ++ 0x3A :: input) =
      (fields? steps more).map fun found => ((some name, value) :: found.1, found.2) := by
  have hcolon : skipSpace (0x3A :: input) = 0x3A :: input := skipSpace_cons (by decide) _
  have hcomma : skipSpace (0x2C :: more) = 0x2C :: more := skipSpace_cons (by decide) _
  rw [writeText_append, fields?, skipSpace_cons (by decide)]
  simp only [text?_writeBytes, Option.bind_eq_bind, Option.bind_some, hcolon, h, hcomma]
  cases fields? steps more <;> rfl

theorem items?_last {item : Data} {input rest : List UInt8}
    (h : value? steps input = some (item, 0x5D :: rest)) :
    items? (steps + 1) input = some ([item], rest) := by
  have hclose : skipSpace (0x5D :: rest) = 0x5D :: rest := by
    rw [skipSpace, List.dropWhile_cons_of_neg (by decide)]
  rw [items?, h]
  simp only [Option.bind_eq_bind, Option.bind_some, hclose]
  rfl

theorem items?_more {item : Data} {input more : List UInt8}
    (h : value? steps input = some (item, 0x2C :: more)) :
    items? (steps + 1) input =
      (items? steps more).map fun found => (item :: found.1, found.2) := by
  have hcomma : skipSpace (0x2C :: more) = 0x2C :: more := skipSpace_cons (by decide) _
  rw [items?, h]
  simp only [Option.bind_eq_bind, Option.bind_some, hcomma]
  cases items? steps more <;> rfl

end Step

theorem stops_of_not_continues {b : UInt8} (h : continues b = false) (rest : List UInt8) :
    Stops (b :: rest) := by
  intro c hc
  cases hc
  exact h

/-! ## Values -/

mutual

/-- A value is read back, if what follows does not go on with a number. -/
theorem value?_write : (data : Data) → data.IsWritable → ∀ (steps : Nat) (rest : List UInt8),
    2 * (write data).length ≤ steps → Stops rest →
    value? steps (write data ++ rest) = some (data, rest)
  | .null, _, steps + 1, rest, _, _ => rfl
  | .bool true, _, steps + 1, rest, _, _ => rfl
  | .bool false, _, steps + 1, rest, _, _ => rfl
  | .number numeral, h, steps + 1, rest, _, hrest => by
    obtain ⟨b, more, hwrite, hb⟩ := exists_writeNumeral_eq h
    have hnumber := value?_number steps hb (more ++ rest)
    rw [← List.cons_append, ← hwrite, numeral?_writeNumeral h hrest] at hnumber
    exact hnumber
  | .text (some content), _, steps + 1, rest, _, _ => value?_text steps content rest
  | .list items, h, steps + 1, rest, hsteps, _ => by
    by_cases hne : items = []
    · rw [hne]
      rfl
    · obtain ⟨b, more, hwrite, hb⟩ := exists_writeItems_eq hne h
      have hlength : (write (.list items)).length = (writeItems items).length + 2 := by
        simp [write]
      have hitems := items?_write items hne h steps rest (by omega)
      have hlist := value?_list steps hb (more ++ 0x5D :: rest)
      rw [← List.cons_append, ← hwrite, hitems] at hlist
      simpa [write] using hlist
  | .table fields, h, steps + 1, rest, hsteps, _ => by
    by_cases hne : fields = []
    · rw [hne]
      rfl
    · obtain ⟨more, hwrite⟩ := exists_writeFields_eq hne h
      have hlength : (write (.table fields)).length = (writeFields fields).length + 2 := by
        simp [write]
      have hfields := fields?_write fields hne h steps rest (by omega)
      have htable := value?_table steps (more ++ 0x7D :: rest)
      rw [← List.cons_append, ← hwrite, hfields] at htable
      simpa [write] using htable
  | data, h, 0, rest, hsteps, _ => by
    obtain ⟨b, more, hwrite, -⟩ := exists_write_eq data h
    simp [hwrite] at hsteps

/-- The items of a list are read back up to its closing bracket. -/
theorem items?_write : (items : List Data) → items ≠ [] → AreWritable items →
    ∀ (steps : Nat) (rest : List UInt8), 2 * (writeItems items).length + 1 ≤ steps →
    items? steps (writeItems items ++ 0x5D :: rest) = some (items, rest)
  | [], hne, _, _, _, _ => absurd rfl hne
  | [item], _, h, steps + 1, rest, hsteps => by
    have hlength : (writeItems [item]).length = (write item).length := rfl
    have hitem := value?_write item h.1 steps (0x5D :: rest) (by omega)
      (stops_of_not_continues (by decide) rest)
    exact items?_last hitem
  | item :: other :: items, _, h, steps + 1, rest, hsteps => by
    simp only [writeItems_cons_cons, List.length_append, List.length_cons] at hsteps
    have hitem := value?_write item h.1 steps
      (0x2C :: (writeItems (other :: items) ++ 0x5D :: rest)) (by omega)
      (stops_of_not_continues (by decide) _)
    have hitems := items?_write (other :: items) (List.cons_ne_nil _ _) h.2 steps rest (by omega)
    rw [writeItems_cons_cons, List.append_assoc, List.cons_append, items?_more hitem, hitems]
    rfl

/-- The fields of a table are read back up to its closing brace. -/
theorem fields?_write : (fields : List (Option String × Data)) → fields ≠ [] →
    AreWritableFields fields → ∀ (steps : Nat) (rest : List UInt8),
    2 * (writeFields fields).length + 1 ≤ steps →
    fields? steps (writeFields fields ++ 0x7D :: rest) = some (fields, rest)
  | [], hne, _, _, _, _ => absurd rfl hne
  | [(some name, value)], _, h, steps + 1, rest, hsteps => by
    simp only [writeFields, writeContent, List.length_append, List.length_cons] at hsteps
    have hvalue := value?_write value h.2.1 steps (0x7D :: rest) (by omega)
      (stops_of_not_continues (by decide) rest)
    rw [writeFields, writeContent, List.append_assoc, List.cons_append]
    exact fields?_last hvalue name
  | (some name, value) :: other :: fields, _, h, steps + 1, rest, hsteps => by
    simp only [writeFields_cons_cons, writeContent, List.length_append, List.length_cons] at hsteps
    have hvalue := value?_write value h.2.1 steps
      (0x2C :: (writeFields (other :: fields) ++ 0x7D :: rest)) (by omega)
      (stops_of_not_continues (by decide) _)
    have hfields := fields?_write (other :: fields) (List.cons_ne_nil _ _) h.2.2 steps rest
      (by omega)
    rw [writeFields_cons_cons, writeContent, List.append_assoc, List.append_assoc, List.cons_append,
      List.cons_append, fields?_more hvalue name, hfields]
    rfl

end

/-- The data of a whole text is read back. -/
theorem parse?_write {data : Data} (h : data.IsWritable) : parse? (write data) = some data := by
  have hvalue := value?_write data h (2 * (write data).length + 2) [] (by omega) nofun
  rw [List.append_nil] at hvalue
  rw [parse?, hvalue]
  rfl

end Json

end GridAccess
