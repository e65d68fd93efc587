import GridAccess.Crypto.Octets

/-!
# The Poly1305 authenticator

A message is cut into blocks of sixteen bytes, which are the coefficients of a polynomial. Its value
at a secret point modulo a prime, plus a second secret, is the tag of the message.

## Main definitions

- `polyPrime` — the prime 2¹³⁰ − 5
- `polyClamp` — the point made from sixteen bytes
- `poly1305` — the tag of a message for a key of 32 bytes
-/

namespace GridAccess.Crypto

/-- The prime modulo which tags are computed. -/
def polyPrime : Nat := (1 <<< 130) - 5

/-- A number of 128 bits with 22 of its bits cleared. -/
def polyClamp (n : Nat) : Nat :=
  n &&& 0x0FFFFFFC0FFFFFFC0FFFFFFC0FFFFFFF

/-- The coefficient of a block: the block with a one behind it. -/
def polyCoefficient (block : List UInt8) : Nat :=
  natOfLittle (block ++ [1])

/-- The value after a message, with `sofar` the value before it. -/
def polyValue (point : Nat) (sofar : Nat) (message : List UInt8) : Nat :=
  match message with
  | [] => sofar
  | b :: rest =>
    let next := (sofar + polyCoefficient ((b :: rest).take 16)) * point % polyPrime
    polyValue point next ((b :: rest).drop 16)
termination_by message.length
decreasing_by simp only [List.length_drop, List.length_cons]; omega

def poly1305 (key message : List UInt8) : List UInt8 :=
  let point := polyClamp (natOfLittle (key.take 16))
  littleOfNat 16 (polyValue point 0 message + natOfLittle (key.drop 16))

end GridAccess.Crypto
