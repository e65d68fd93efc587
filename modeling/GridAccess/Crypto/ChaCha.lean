import GridAccess.Crypto.Octets

/-!
# The ChaCha20 stream cipher

The cipher mixes a square of sixteen words: four constants, a key, and a counter with a nonce. A
round treats the columns of the square, and then its diagonals, which are columns after the rows
have been turned.

## Main definitions

- `Row`, `Square` — four words, and four rows of them
- `Square.scramble` — the twenty rounds
- `chachaBlock` — the bytes of the key stream for one counter
- `chachaApply` — bytes combined with the key stream, for encryption and decryption
- `chachaDerive` — a key made from a key and a longer nonce
-/

namespace GridAccess.Crypto

/-- Four words in a row. -/
structure Row where
  w0 : UInt32
  w1 : UInt32
  w2 : UInt32
  w3 : UInt32
  deriving DecidableEq, Repr

namespace Row

def zip (combine : UInt32 → UInt32 → UInt32) (x y : Row) : Row :=
  ⟨combine x.w0 y.w0, combine x.w1 y.w1, combine x.w2 y.w2, combine x.w3 y.w3⟩

/-- A row with the bits of its words moved to the left, those that fall out coming back at the
right. -/
def rotateBits (amount : UInt32) (x : Row) : Row :=
  let rotate (w : UInt32) := (w <<< amount) ||| (w >>> (32 - amount))
  ⟨rotate x.w0, rotate x.w1, rotate x.w2, rotate x.w3⟩

/-- A row with its words moved one place to the left, the first becoming the last. -/
def turn (x : Row) : Row :=
  ⟨x.w1, x.w2, x.w3, x.w0⟩

def toList (x : Row) : List UInt32 :=
  [x.w0, x.w1, x.w2, x.w3]

/-- The row of sixteen bytes, each word with its least significant byte first. -/
def ofBytes (bytes : List UInt8) : Row :=
  let word (i : Nat) := UInt32.ofNat (natOfLittle ((bytes.drop (4 * i)).take 4))
  ⟨word 0, word 1, word 2, word 3⟩

def bytes (x : Row) : List UInt8 :=
  x.toList.flatMap fun w => littleOfNat 4 w.toNat

end Row

/-- Four rows of words. -/
structure Square where
  a : Row
  b : Row
  c : Row
  d : Row
  deriving DecidableEq, Repr

namespace Square

/-- One step: the second row is added to the first, and the sum mixed into the fourth. -/
def mix (amount : UInt32) (target source other : Row) : Row × Row :=
  let sum := target.zip (· + ·) source
  (sum, (other.zip (· ^^^ ·) sum).rotateBits amount)

/-- A round on the columns of a square. -/
def columns (s : Square) : Square :=
  let (a, d) := mix 16 s.a s.b s.d
  let (c, b) := mix 12 s.c d s.b
  let (a, d) := mix 8 a b d
  let (c, b) := mix 7 c d b
  ⟨a, b, c, d⟩

/-- Turn the rows so that diagonals become columns. -/
def slant (s : Square) : Square :=
  ⟨s.a, s.b.turn, s.c.turn.turn, s.d.turn.turn.turn⟩

def straighten (s : Square) : Square :=
  ⟨s.a, s.b.turn.turn.turn, s.c.turn.turn, s.d.turn⟩

/-- A round on the columns and one on the diagonals. -/
def doubleRound (s : Square) : Square :=
  s.columns.slant.columns.straighten

/-- Twenty rounds. -/
def scramble (s : Square) : Square :=
  (List.range 10).foldl (fun s _ => s.doubleRound) s

def add (s t : Square) : Square :=
  ⟨s.a.zip (· + ·) t.a, s.b.zip (· + ·) t.b, s.c.zip (· + ·) t.c, s.d.zip (· + ·) t.d⟩

def bytes (s : Square) : List UInt8 :=
  s.a.bytes ++ s.b.bytes ++ s.c.bytes ++ s.d.bytes

end Square

/-- The words every square starts with. -/
def chachaConstants : Row :=
  ⟨0x61707865, 0x3320646E, 0x79622D32, 0x6B206574⟩

/-- The square of a key of 32 bytes, and sixteen bytes of counter and nonce. -/
def chachaSquare (key position : List UInt8) : Square :=
  ⟨chachaConstants, .ofBytes (key.take 16), .ofBytes (key.drop 16), .ofBytes position⟩

/-- The 64 bytes of the key stream for a counter and a nonce of twelve bytes. -/
def chachaBlock (key nonce : List UInt8) (counter : Nat) : List UInt8 :=
  let square := chachaSquare key (littleOfNat 4 counter ++ nonce)
  (square.scramble.add square).bytes

/-- Bytes combined with the key stream from a counter on. -/
def chachaApply (key nonce : List UInt8) (counter : Nat) (bytes : List UInt8) : List UInt8 :=
  let count := (bytes.length + 63) / 64
  let stream := (List.range count).flatMap fun i => chachaBlock key nonce (counter + i)
  xorBytes bytes stream

/-- The key made from a key and sixteen bytes of a nonce: the first and the last row after the
rounds. -/
def chachaDerive (key position : List UInt8) : List UInt8 :=
  let square := (chachaSquare key position).scramble
  square.a.bytes ++ square.d.bytes

end GridAccess.Crypto
