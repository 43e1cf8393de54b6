/-! Characters as bytes and back. -/

namespace FilterDispatch.Text

def utf8Bytes (s : List Char) : List UInt8 :=
  s.flatMap String.utf8EncodeChar

/-- The text that the bytes encode, if they encode one. -/
def ofUtf8? (bytes : List UInt8) : Option (List Char) :=
  (String.fromUTF8? (ByteArray.mk bytes.toArray)).map String.toList

end FilterDispatch.Text
