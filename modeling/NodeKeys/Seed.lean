import NodeKeys.Error

/-!
# Seeds

An ML-DSA-65 key pair is derived from thirty-two bytes.  A seed carries the proof of its length, so
nothing behind this point has to check it again.
-/

namespace NodeKeys

open Base64Url (CodecError)

def seedLength : Nat := 32

/-- The bytes that a key pair is derived from. -/
structure Seed where
  bytes : List UInt8
  length_bytes : bytes.length = seedLength
  deriving DecidableEq

namespace Seed

/-- Read a seed from key text.  A wrong length is told apart from text that is not readable. -/
def ofText (text : String) : Except KeygenError Seed :=
  match Base64Url.decodeExact seedLength text with
  | .ok ⟨bytes, sized⟩ => .ok ⟨bytes, sized⟩
  | .error (.length expected actual) => .error (.invalidSeedLength expected actual)
  | .error error => .error (.invalidSeed error)

def ofBytes? (bytes : List UInt8) : Option Seed :=
  if sized : bytes.length = seedLength then some ⟨bytes, sized⟩ else none

def text (seed : Seed) : String :=
  Base64Url.encode seed.bytes

/-- A seed is never shown. -/
def diagnostic (_ : Seed) : String := "Seed(***)"

end Seed
end NodeKeys
