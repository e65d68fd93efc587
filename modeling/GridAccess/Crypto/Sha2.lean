import GridAccess.Crypto.Octets

/-!
# The SHA-2 hash functions

A message is padded to blocks of sixteen words. Each block is mixed into eight chaining words, in
rounds that use one constant and one word of the block's schedule each. The functions of the
family differ in the size of words, the constants and the amounts of their rotations.

## Main definitions

- `Sha2` — what tells one function of the family from another
- `Sha2.rounds` — the rounds over one block
- `Sha2.pad` — a message with its padding
- `Sha2.hash` — the hash of a message
-/

namespace GridAccess.Crypto

/-- Eight chaining words. -/
structure Chain (α : Type) where
  a : α
  b : α
  c : α
  d : α
  e : α
  f : α
  g : α
  h : α
  deriving DecidableEq, Repr

def Chain.toList {α : Type} (chain : Chain α) : List α :=
  [chain.a, chain.b, chain.c, chain.d, chain.e, chain.f, chain.g, chain.h]

def Chain.zip {α : Type} (combine : α → α → α) (x y : Chain α) : Chain α :=
  ⟨combine x.a y.a, combine x.b y.b, combine x.c y.c, combine x.d y.d, combine x.e y.e,
    combine x.f y.f, combine x.g y.g, combine x.h y.h⟩

/-- A hash function of the family: the bytes of a word, the mixing functions of the chain and of
the schedule, the constant of each round, the chain at the start and the bytes of a hash. -/
structure Sha2 (α : Type) where
  wordSize : Nat
  ofNat : Nat → α
  toNat : α → Nat
  chainLow : α → α
  chainHigh : α → α
  scheduleLow : α → α
  scheduleHigh : α → α
  constants : List α
  start : Chain α
  hashSize : Nat

namespace Sha2

variable {α : Type} [Add α] [XorOp α] [AndOp α] [Complement α]

/-- Each bit is taken from the second or the third word, as the first word chooses. -/
def choose (x y z : α) : α :=
  (x &&& y) ^^^ (~~~x &&& z)

/-- Each bit is that of at least two of the words. -/
def majority (x y z : α) : α :=
  (x &&& y) ^^^ (x &&& z) ^^^ (y &&& z)

/-- One round with a constant and a word of the schedule. -/
def round (function : Sha2 α) (constant word : α) (s : Chain α) : Chain α :=
  let t := s.h + function.chainHigh s.e + choose s.e s.f s.g + constant + word
  ⟨t + (function.chainLow s.a + majority s.a s.b s.c), s.a, s.b, s.c, s.d + t, s.e, s.f, s.g⟩

/-- The next word of a schedule, given the sixteen words before it. -/
def nextWord? (function : Sha2 α) : List α → Option α
  | [w0, w1, _, _, _, _, _, _, _, w9, _, _, _, _, w14, _] =>
    some (function.scheduleHigh w14 + w9 + function.scheduleLow w1 + w0)
  | _ => none

/-- The rounds over one block. The window holds the next sixteen words of the schedule. -/
def rounds (function : Sha2 α) : List α → List α → Chain α → Chain α
  | constant :: constants, word :: window, s =>
    let next := (function.nextWord? (word :: window)).toList
    rounds function constants (window ++ next) (function.round constant word s)
  | _, _, s => s

def blockSize (function : Sha2 α) : Nat :=
  16 * function.wordSize

/-- A message followed by a single bit, zeros, and its length in bits. -/
def pad (function : Sha2 α) (message : List UInt8) : List UInt8 :=
  let block := function.blockSize
  let zeros := (2 * block - (message.length + 1 + 2 * function.wordSize) % block) % block
  message ++ 0x80 :: List.replicate zeros 0 ++
    bigOfNat (2 * function.wordSize) (8 * message.length)

/-- Bytes in pieces of one size, as many as there are steps. -/
def pieces (size : Nat) : Nat → List UInt8 → List (List UInt8)
  | 0, _ => []
  | steps + 1, bytes => bytes.take size :: pieces size steps (bytes.drop size)

def words (function : Sha2 α) (block : List UInt8) : List α :=
  (pieces function.wordSize 16 block).map fun bytes => function.ofNat (natOfBig bytes)

def compress (function : Sha2 α) (s : Chain α) (block : List UInt8) : Chain α :=
  Chain.zip (· + ·) s (function.rounds function.constants (function.words block) s)

/-- The hash of a message: the first bytes of the chain after its last block. -/
def hash (function : Sha2 α) (message : List UInt8) : List UInt8 :=
  let padded := function.pad message
  let blocks := pieces function.blockSize (padded.length / function.blockSize) padded
  let chain := blocks.foldl function.compress function.start
  (chain.toList.flatMap fun word => bigOfNat function.wordSize (function.toNat word)).take
    function.hashSize

end Sha2

end GridAccess.Crypto
