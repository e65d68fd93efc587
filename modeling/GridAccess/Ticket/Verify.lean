import GridAccess.Ticket.Encrypted
import GridAccess.Ticket.Signed

/-!
# Checking signed and encrypted tickets

A signed ticket lists the keys that its signature covers. The covered text is put together again from
the values as they were written. Tickets signed by a storage element do not list the list itself,
which then follows the listed pairs.

An encrypted ticket is decrypted, and the signature inside of it is checked over the envelope in
front of it.

## Main definitions

- `VerifyError` — why a ticket is refused
- `VerifiedEnvelope` — the fields of a ticket whose signature is right
- `coveredText` — the text that a signature has to cover
- `KeyRing.verify` — check a signed ticket
- `KeyRing.unseal` — decrypt and check an encrypted ticket
-/

namespace GridAccess

open Crypto Text

/-- What is wrong with a bearer token. -/
inductive TokenFault where
  | malformed
  | invalidBase64
  | invalidJson
  | wrongAlgorithm
  | wrongSignature
  | expired
  | immature
  | wrongIssuer
  | wrongAudience
  deriving DecidableEq, Repr

/-- Why a ticket is refused. -/
inductive VerifyError where
  | envelope (error : EnvelopeError)
  | notSigned
  | missingSignature
  | missingField (key : String)
  | invalidEncoding
  | malformedSeal
  | signature (error : SignatureError)
  | cipher (error : CipherError)
  | key (fault : KeyFault)
  | token (fault : TokenFault)
  deriving DecidableEq, Repr

section MapError

variable {α ε δ : Type}

/-- Results stay when an error is told as part of another. -/
@[simp] theorem mapError_ok (tell : ε → δ) (result : α) :
    (Except.ok result : Except ε α).mapError tell = .ok result :=
  rfl

/-- An error is told as part of another. -/
@[simp] theorem mapError_error (tell : ε → δ) (error : ε) :
    (Except.error error : Except ε α).mapError tell = .error (tell error) :=
  rfl

end MapError

/-- The fields of a ticket whose signature is right, and the keys that the signature covers. -/
structure VerifiedEnvelope where
  envelope : ReceivedEnvelope
  signedKeys : List String
  deriving DecidableEq, Repr

namespace VerifiedEnvelope

def get? (verified : VerifiedEnvelope) (key : String) : Option String :=
  verified.envelope.get? key

def access (verified : VerifiedEnvelope) : Except EnvelopeError AccessKind :=
  verified.envelope.access

/-- The keys of envelopes among the signed keys, in their order. -/
def keyOrder (verified : VerifiedEnvelope) : List EnvelopeKey :=
  verified.signedKeys.filterMap EnvelopeKey.ofName?

def issuer (verified : VerifiedEnvelope) : Option String :=
  verified.get? "issuer"

/-- When the ticket expires, if it says so. -/
def expires (verified : VerifiedEnvelope) : Option UInt64 :=
  (verified.get? "expires").bind fun text => Decimal.toUInt64? text.toList

/-- Whether a ticket has expired. One that does not say when it expires never does. -/
def isExpired (verified : VerifiedEnvelope) (now : UInt64) : Bool :=
  verified.expires.any fun expiry => expiry ≤ now

def toEnvelope (verified : VerifiedEnvelope) : Except EnvelopeError Envelope :=
  Envelope.ofReceived verified.envelope

end VerifiedEnvelope

def listedKeys (keyList : String) : List String :=
  (keyList.toList.splitOn '-').map String.ofList

/-- A key with its value as it was written. -/
def writtenPair (envelope : ReceivedEnvelope) (key : String) : Except VerifyError (List Char) :=
  match envelope.raw? key with
  | some value => .ok (key.toList ++ '=' :: value.toList)
  | none => .error (.missingField key)

/-- The text that a signature has to cover: the listed pairs as they were written, and for tickets of
storage elements the list of keys behind them. -/
def coveredText (envelope : ReceivedEnvelope) (selfSigned : Bool) (keyList : String) :
    Except VerifyError (List Char) := do
  let pairs ← (listedKeys keyList).mapM (writtenPair envelope)
  let listed := ['&'].intercalate pairs
  if selfSigned then return listed
  else return listed ++ '&' :: Envelope.keyListName.toList ++ '=' :: keyList.toList

/-- The key that a signature has to be made with. -/
def Crypto.KeyRing.verifying (keys : KeyRing) (selfSigned : Bool) : RsaPublicKey :=
  if selfSigned then keys.signingPublic else keys.element

/-- Check the signature of a ticket that was signed by the service itself or by a storage element. -/
def Crypto.KeyRing.verify (keys : KeyRing) (sealed : String) (selfSigned : Bool) :
    Except VerifyError VerifiedEnvelope := do
  let envelope ← (ReceivedEnvelope.parse sealed).mapError .envelope
  if envelope.format ≠ .delimited then .error .notSigned
  else
    match envelope.raw? Envelope.keyListName with
    | none => .error (.missingField Envelope.keyListName)
    | some keyList =>
      match envelope.raw? signatureKey with
      | none => .error .missingSignature
      | some encoded =>
        match Base64.decodePadded? encoded.toList with
        | none => .error .invalidEncoding
        | some signature =>
          let text ← coveredText envelope selfSigned keyList
          match (keys.verifying selfSigned).verify .sha384 (bytesOfChars text) signature with
          | .ok () => return ⟨envelope, listedKeys keyList⟩
          | .error e => .error (.signature e)

def Crypto.KeyRing.isValid (keys : KeyRing) (sealed : String) (selfSigned : Bool) : Bool :=
  (keys.verify sealed selfSigned).toOption.isSome

/-- The text between the first `first` and the next `last`, white space at its ends removed. -/
def armouredBlock (first last text : List Char) : Except VerifyError (List Char) :=
  match cut first text with
  | none => .error .malformedSeal
  | some (_, rest) =>
    match cut last rest with
    | none => .error .malformedSeal
    | some (inside, _) => .ok (trim inside)

/-- The bytes of a block in base64, white space in it ignored. -/
def blockBytes (block : List Char) : Except VerifyError (List UInt8) :=
  match Base64.decodePadded? (squeeze block) with
  | some bytes => .ok bytes
  | none => .error .invalidEncoding

/-- A decrypted text as the envelope in it and the signature behind it. -/
def splitSigned (text : List Char) : Except VerifyError (List Char × List UInt8) :=
  match cut ('\n' :: signatureBegin ++ ['\n']) text with
  | none => .error .missingSignature
  | some (markup, rest) =>
    match stripEnd? signatureEnd (trimEnd rest) with
    | none => .error .missingSignature
    | some block =>
      match blockBytes block with
      | .ok signature => .ok (markup, signature)
      | .error e => .error e

/-- The text that was encrypted to the storage elements. -/
def Crypto.KeyRing.decryptText (keys : KeyRing) (sealed : String) :
    Except VerifyError (List Char) := do
  let wrapped ← armouredBlock cipherBegin cipherEnd sealed.toList
  let body ← armouredBlock bodyBegin bodyEnd sealed.toList
  let key ← keys.elementPrivate.mapError .key
  let wrappedBytes ← blockBytes wrapped
  let bodyBytes ← blockBytes body
  let plain ← (key.decrypt ⟨wrappedBytes, bodyBytes⟩).mapError .cipher
  match Utf8.decode? plain with
  | some text => return text.toList
  | none => .error .invalidEncoding

/-- The envelope of an encrypted ticket, with the signature of the service checked. -/
def Crypto.KeyRing.unseal (keys : KeyRing) (sealed : String) : Except VerifyError Envelope := do
  let text ← keys.decryptText sealed
  let (markup, signature) ← splitSigned text
  (keys.signingPublic.verify .sha384 (bytesOfChars markup) signature).mapError .signature
  let received ← (ReceivedEnvelope.parse (String.ofList markup)).mapError .envelope
  (Envelope.ofReceived received).mapError .envelope

/-- The wording of the error, where it has one. -/
def VerifyError.message : VerifyError → Option String
  | .envelope error => some error.message
  | .notSigned => some "only '&'-delimited envelopes carry a signature"
  | .missingSignature => some "envelope has no signature"
  | .missingField name => some s!"signed field '{name}' is missing"
  | .invalidEncoding => some "invalid base64 or UTF-8 encoding"
  | .malformedSeal => some "sealed envelope is missing its cipher or envelope block"
  | .signature error => some error.message
  | .cipher error => some error.message
  | .key fault => fault.message
  | .token _ => none

end GridAccess
