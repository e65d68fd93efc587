import GridAccess.Crypto.Der
import GridAccess.Crypto.Pem
import GridAccess.Crypto.Rsa

/-!
# Keys in text files

A key is stored as armoured binary data in one of two forms: bare numbers, or the numbers wrapped
together with the name of the algorithm they belong to.

## Main definitions

- `RsaPublicKey.ofText?` — the public key in a text
- `RsaPrivateKey.ofText?` — the private key in a text
-/

namespace GridAccess.Crypto

open Der Text

/-- The name of the algorithm, an object identifier without parameters. -/
def rsaAlgorithm : List UInt8 :=
  [0x06, 0x09, 0x2A, 0x86, 0x48, 0x86, 0xF7, 0x0D, 0x01, 0x01, 0x01, 0x05, 0x00]

/-- The bytes after the name of the algorithm. -/
def afterAlgorithm? (bytes : List UInt8) : Option (List UInt8) := do
  let (algorithm, rest) ← contents? sequenceTag bytes
  if algorithm = rsaAlgorithm then some rest else none

/-- Numbers one after the other, and the bytes after them. -/
def naturals? : Nat → List UInt8 → Option (List Nat × List UInt8)
  | 0, bytes => some ([], bytes)
  | count + 1, bytes => do
    let (n, rest) ← natural? bytes
    let (ns, after) ← naturals? count rest
    return (n :: ns, after)

/-- A sequence of so many numbers, and nothing else. -/
def naturalSequence? (count : Nat) (bytes : List UInt8) : Option (List Nat) := do
  let contents ← whole? sequenceTag bytes
  match ← naturals? count contents with
  | (ns, []) => some ns
  | _ => none

namespace RsaPublicKey

/-- The public key made of two numbers, if it is sound. -/
def ofNumbers? (bytes : List UInt8) : Option RsaPublicKey := do
  match ← naturalSequence? 2 bytes with
  | [modulus, exponent] =>
    let key : RsaPublicKey := ⟨modulus, exponent⟩
    if key.isSound && key.isModest then some key else none
  | _ => none

/-- The public key in a string of bits behind the name of the algorithm. -/
def ofWrapped? (bytes : List UInt8) : Option RsaPublicKey := do
  let contents ← whole? sequenceTag bytes
  let rest ← afterAlgorithm? contents
  ofNumbers? (← bitsOf? (← whole? bitsTag rest))

/-- The public key in a text. A text that mentions bare numbers has to hold them. -/
def ofText? (text : List Char) : Option RsaPublicKey := do
  let bare := contains "BEGIN RSA PUBLIC KEY".toList text
  let pem ← Pem.parse? text
  if bare then
    if pem.label = "RSA PUBLIC KEY".toList then ofNumbers? pem.bytes else none
  else if pem.label = "PUBLIC KEY".toList then ofWrapped? pem.bytes
  else none

end RsaPublicKey

namespace RsaPrivateKey

/-- The private key made of nine numbers, the first of them zero for a key of two primes, if it is
sound. The last three numbers follow from the others and are not used. -/
def ofNumbers? (bytes : List UInt8) : Option RsaPrivateKey := do
  match ← naturalSequence? 9 bytes with
  | [0, modulus, publicExponent, exponent, firstPrime, secondPrime, _, _, _] =>
    let key : RsaPrivateKey := ⟨⟨modulus, publicExponent⟩, exponent, firstPrime, secondPrime⟩
    if key.isSound then some key else none
  | _ => none

/-- Whether bytes are elements with tags of their own that contain one element each. -/
def areExtensions (bytes : List UInt8) : Bool :=
  match _h : element? bytes with
  | none => bytes.isEmpty
  | some (element, rest) =>
    let inner := element? element.contents
    0xA0 ≤ element.tag && element.tag < 0xC0 && inner.any (fun found => found.2.isEmpty) &&
      areExtensions rest
termination_by bytes.length
decreasing_by
  have := length_of_element? _h
  omega

/-- Skip the attributes behind a private key, and find the public key that may follow them. -/
def publicPart? (bytes : List UInt8) : Option (Option (List UInt8) × List UInt8) :=
  match _h : element? bytes with
  | none => if bytes.isEmpty then some (none, []) else none
  | some (element, rest) =>
    if element.tag = 0x81 then (bitsOf? element.contents).map fun bits => (some bits, rest)
    else if element.tag = 0x80 ∨ element.tag = 0xA0 then publicPart? rest
    else if element.tag = 0xA1 then none
    else some (none, bytes)
termination_by bytes.length
decreasing_by
  have := length_of_element? _h
  omega

/-- The private key in a string of bytes behind the name of the algorithm. A version in front says
whether the public key follows. -/
def ofWrapped? (bytes : List UInt8) : Option RsaPrivateKey := do
  let contents ← whole? sequenceTag bytes
  let (version, afterVersion) ← natural? contents
  let (numbers, afterNumbers) ← contents? bytesTag (← afterAlgorithm? afterVersion)
  let (publicPart, extensions) ← publicPart? afterNumbers
  if version ≤ 1 && (version == 1) == publicPart.isSome && areExtensions extensions then
    ofNumbers? numbers
  else none

/-- The private key in a text. A text that mentions bare numbers has to hold them. -/
def ofText? (text : List Char) : Option RsaPrivateKey := do
  let bare := contains "BEGIN RSA PRIVATE KEY".toList text
  let pem ← Pem.parse? text
  if bare then
    if pem.label = "RSA PRIVATE KEY".toList then ofNumbers? pem.bytes else none
  else if pem.label = "PRIVATE KEY".toList then ofWrapped? pem.bytes
  else none

end RsaPrivateKey

end GridAccess.Crypto
