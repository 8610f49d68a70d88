/-!
# Text as bytes

The codec counts positions in UTF-8 bytes, hashes are taken of them, and a configuration file has to
be valid UTF-8 before it is read as text.
-/

namespace NodeKeys
namespace Utf8

/-- The UTF-8 bytes of a text, character by character. -/
def bytes (text : String) : List UInt8 :=
  text.toList.flatMap String.utf8EncodeChar

def text? (bytes : List UInt8) : Option String :=
  String.fromUTF8? (ByteArray.mk bytes.toArray)

end Utf8
end NodeKeys
