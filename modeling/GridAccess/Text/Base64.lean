/-!
# Base64

Three bytes are written as four symbols of six bits. The standard alphabet is used with padding,
the URL alphabet without. Reading is strict: the padding has to be there exactly where it belongs,
and the bits of the last symbol that belong to no byte have to be zero.

## Main definitions

- `Base64.Alphabet` — the two alphabets
- `Base64.encodePadded`, `Base64.decodePadded?` — the standard form
- `Base64.encodeUrl`, `Base64.decodeUrl?` — the form for URLs, without padding

## Main statements

- `Base64.value?_symbol` — a symbol is read as its value in both alphabets
-/

namespace GridAccess.Text.Base64

/-- The alphabets differ in their last two symbols. -/
inductive Alphabet where
  | standard
  | url
  deriving DecidableEq, Repr

def symbol (alphabet : Alphabet) (n : Nat) : Char :=
  if n < 26 then Char.ofNat (0x41 + n)
  else if n < 52 then Char.ofNat (0x61 + (n - 26))
  else if n < 62 then Char.ofNat (0x30 + (n - 52))
  else
    match alphabet with
    | .standard => if n = 62 then '+' else '/'
    | .url => if n = 62 then '-' else '_'

def value? (alphabet : Alphabet) (c : Char) : Option Nat :=
  let n := c.toNat
  if 0x41 ≤ n && n ≤ 0x5A then some (n - 0x41)
  else if 0x61 ≤ n && n ≤ 0x7A then some (n - 0x61 + 26)
  else if 0x30 ≤ n && n ≤ 0x39 then some (n - 0x30 + 52)
  else
    match alphabet with
    | .standard => if c = '+' then some 62 else if c = '/' then some 63 else none
    | .url => if c = '-' then some 62 else if c = '_' then some 63 else none

def group (alphabet : Alphabet) (a b c : UInt8) : List Char :=
  let n := (a.toNat * 256 + b.toNat) * 256 + c.toNat
  [symbol alphabet (n / 262144), symbol alphabet (n / 4096 % 64), symbol alphabet (n / 64 % 64),
    symbol alphabet (n % 64)]

def lastTwo (alphabet : Alphabet) (a b : UInt8) : List Char :=
  (group alphabet a b 0).take 3

def lastOne (alphabet : Alphabet) (a : UInt8) : List Char :=
  (group alphabet a 0 0).take 2

/-- The standard form, with padding. -/
def encodePadded : List UInt8 → List Char
  | [] => []
  | [a] => lastOne .standard a ++ ['=', '=']
  | [a, b] => lastTwo .standard a b ++ ['=']
  | a :: b :: c :: rest => group .standard a b c ++ encodePadded rest

/-- The form for URLs, without padding. -/
def encodeUrl : List UInt8 → List Char
  | [] => []
  | [a] => lastOne .url a
  | [a, b] => lastTwo .url a b
  | a :: b :: c :: rest => group .url a b c ++ encodeUrl rest

def ungroup? (alphabet : Alphabet) (a b c d : Char) : Option (List UInt8) := do
  let x ← value? alphabet a
  let y ← value? alphabet b
  let z ← value? alphabet c
  let w ← value? alphabet d
  let n := ((x * 64 + y) * 64 + z) * 64 + w
  return [UInt8.ofNat (n / 65536), UInt8.ofNat (n / 256 % 256), UInt8.ofNat (n % 256)]

/-- The two bytes of three last symbols, whose two spare bits are zero. -/
def unlastTwo? (alphabet : Alphabet) (a b c : Char) : Option (List UInt8) := do
  let x ← value? alphabet a
  let y ← value? alphabet b
  let z ← value? alphabet c
  let n := (x * 64 + y) * 64 + z
  if n % 4 = 0 then some [UInt8.ofNat (n / 1024), UInt8.ofNat (n / 4 % 256)] else none

/-- The byte of two last symbols, whose four spare bits are zero. -/
def unlastOne? (alphabet : Alphabet) (a b : Char) : Option (List UInt8) := do
  let x ← value? alphabet a
  let y ← value? alphabet b
  let n := x * 64 + y
  if n % 16 = 0 then some [UInt8.ofNat (n / 16)] else none

def decodePadded? : List Char → Option (List UInt8)
  | [] => some []
  | a :: b :: c :: d :: rest =>
    if d = '=' then
      if rest ≠ [] then none
      else if c = '=' then unlastOne? .standard a b
      else unlastTwo? .standard a b c
    else do
      let bytes ← ungroup? .standard a b c d
      let more ← decodePadded? rest
      return bytes ++ more
  | _ => none

def decodeUrl? : List Char → Option (List UInt8)
  | [] => some []
  | [a, b] => unlastOne? .url a b
  | [a, b, c] => unlastTwo? .url a b c
  | a :: b :: c :: d :: rest => do
    let bytes ← ungroup? .url a b c d
    let more ← decodeUrl? rest
    return bytes ++ more
  | _ => none

/-- A symbol is read as the number it stands for. -/
theorem value?_symbol (alphabet : Alphabet) {n : Nat} (h : n < 64) :
    value? alphabet (symbol alphabet n) = some n := by
  have hall : ∀ k : Fin 64, value? alphabet (symbol alphabet k.val) = some k.val := by
    cases alphabet <;> decide
  exact hall ⟨n, h⟩

/-- Three bytes are read back from their four symbols. -/
theorem ungroup?_group (alphabet : Alphabet) (a b c : UInt8) :
    ∃ x y z w, group alphabet a b c = [x, y, z, w] ∧
      ungroup? alphabet x y z w = some [a, b, c] := by
  refine ⟨_, _, _, _, rfl, ?_⟩
  have ha := a.toNat_lt
  have hb := b.toNat_lt
  have hc := c.toNat_lt
  unfold ungroup?
  rw [value?_symbol _ (by omega), value?_symbol _ (by omega), value?_symbol _ (by omega),
    value?_symbol _ (by omega)]
  simp only [Option.bind_eq_bind, Option.bind_some, Option.pure_def, Option.some.injEq,
    List.cons.injEq, and_true]
  refine ⟨?_, ?_, ?_⟩ <;> apply UInt8.toNat_inj.1 <;> simp <;> omega

end GridAccess.Text.Base64
