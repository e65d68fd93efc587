/-!
# UTF-8

The bytes of a text, and the text of a sequence of bytes if it has one.

## Main statements

- `decode?_encode` — the bytes of a text are read back as that text
- `encode_of_decode?` — bytes that are read as a text are the bytes of that text
-/

namespace GridAccess.Text.Utf8

def encode (text : String) : List UInt8 :=
  text.toByteArray.data.toList

/-- The text of a sequence of bytes, or `none` if they are not well-formed UTF-8. -/
def decode? (bytes : List UInt8) : Option String :=
  String.fromUTF8? ⟨bytes.toArray⟩

theorem decode?_encode (text : String) : decode? (encode text) = some text := by
  have h : (⟨text.toByteArray.data.toList.toArray⟩ : ByteArray) = text.toByteArray := by simp
  simp only [decode?, encode, String.fromUTF8?, h, text.isValidUTF8, dite_true]
  rfl

theorem encode_of_decode? {bytes : List UInt8} {text : String} (h : decode? bytes = some text) :
    encode text = bytes := by
  unfold decode? String.fromUTF8? at h
  split at h
  · cases h
    rfl
  · cases h

end GridAccess.Text.Utf8
