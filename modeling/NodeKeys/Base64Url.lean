import NodeKeys.Base64Url.Decode
import NodeKeys.Base64Url.Encode

/-!
# Key text

Keys and seeds travel as URL-safe Base64 without padding.  A key of known size is read with its length
checked: text that is not readable is told apart from text that is readable and has the wrong length.
-/

namespace NodeKeys
namespace Base64Url

/-- Why a text is no key text of the wanted length. -/
inductive CodecError where
  /-- The text is not readable. -/
  | decode (error : TextError)
  /-- The text is readable and holds another number of bytes. -/
  | length (expected actual : Nat)
  deriving DecidableEq, Repr

namespace CodecError

def message : CodecError → String
  | decode error => "Base64URL decode error: " ++ error.message
  | length expected actual =>
    s!"Decoded length mismatch: expected {expected} bytes, got {actual}"

end CodecError

/-- Read a text that has to hold exactly `size` bytes. -/
def decodeExact (size : Nat) (text : String) : Except CodecError { bytes : List UInt8 // bytes.length = size } :=
  match decode text with
  | .error error => .error (.decode error)
  | .ok bytes =>
    if sized : bytes.length = size then .ok ⟨bytes, sized⟩
    else .error (.length size bytes.length)

end Base64Url
end NodeKeys
