/-! # Text and bytes

A file is a sequence of bytes.  It holds a text if it is the UTF-8 encoding of one, and then of only
one. -/

namespace GoCoverage.Text

/-- The text whose UTF-8 encoding the bytes are, if there is one. -/
def decode? (bytes : List UInt8) : Option String := String.fromUTF8? ⟨bytes.toArray⟩

/-- The UTF-8 encoding of a text. -/
def encode (text : String) : List UInt8 := text.toUTF8.data.toList

/-- Decoding gives back what was encoded. -/
theorem decode?_encode (text : String) : decode? (encode text) = some text := by
  unfold decode? encode String.fromUTF8?
  rw [Array.toArray_toList]
  exact dif_pos text.isValidUTF8

/-- A text is encoded character by character. -/
theorem encode_ofList (text : List Char) :
    encode (String.ofList text) = text.flatMap String.utf8EncodeChar := by
  rw [encode, String.toUTF8_eq_toByteArray, String.toByteArray_ofList, List.utf8Encode,
    List.data_toByteArray, List.toList_toArray]

end GoCoverage.Text
