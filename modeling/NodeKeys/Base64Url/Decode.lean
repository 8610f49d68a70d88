import NodeKeys.Utf8
import NodeKeys.Base64Url.Alphabet

/-!
# Reading key text

Either spelling of the alphabet is read, with the `=` at the end or without.  The text is respelled
the standard way and filled up with `=` to a whole number of groups; the result is read strictly, with
one leniency: bits of the last symbol that belong to no byte may have any value.

Positions are counted in UTF-8 bytes of the filled text.  A byte that is no symbol is reported at the
place where it stands.  In the last group this includes an `=` that is followed by something else, and
an `=` among the first two characters.

The reader of standard text is made for texts of any length and knows four kinds of failure.  A text
that was filled up does not bring all of them about.
-/

namespace NodeKeys
namespace Base64Url

/-- Why a text is not readable. -/
inductive TextError where
  /-- A byte that is no symbol, or an `=` out of place. -/
  | invalidSymbol (offset : Nat) (byte : UInt8)
  /-- One symbol is left over behind the last group. -/
  | invalidLength (length : Nat)
  /-- The last symbol has a bit that belongs to no byte. -/
  | invalidLastSymbol (offset : Nat) (byte : UInt8)
  /-- The last group is not filled up with `=`. -/
  | invalidPadding
  deriving DecidableEq, Repr

namespace TextError

def message : TextError → String
  | invalidSymbol offset byte => s!"Invalid symbol {byte.toNat}, offset {offset}."
  | invalidLength length => s!"Invalid input length: {length}"
  | invalidLastSymbol offset byte => s!"Invalid last symbol {byte.toNat}, offset {offset}."
  | invalidPadding => "Invalid padding"

end TextError

/-- How strictly standard text is read. -/
structure Reader where
  /-- Bits of the last symbol that belong to no byte may have any value. -/
  allowsTrailingBits : Bool := false
  deriving DecidableEq, Repr

def lenient : Reader := { allowsTrailingBits := true }

def symbolAt (offset : Nat) (byte : UInt8) : Except TextError Sextet :=
  match sextet? byte with
  | some value => .ok value
  | none => .error (.invalidSymbol offset byte)

/-- The first byte that two symbols hold. -/
def firstByte (first second : Sextet) : UInt8 :=
  UInt8.ofNat (first.val * 4 + second.val / 16)

/-- The byte that the second and third symbol of a group share. -/
def middleByte (second third : Sextet) : UInt8 :=
  UInt8.ofNat (second.val % 16 * 16 + third.val / 4)

/-- The byte that the third and fourth symbol of a group share. -/
def lastByte (third fourth : Sextet) : UInt8 :=
  UInt8.ofNat (third.val % 4 * 64 + fourth.val)

/-- Read a group that more groups follow: four symbols. -/
def decodeGroup (offset : Nat) (a b c d : UInt8) : Except TextError (List UInt8) := do
  let first ← symbolAt offset a
  let second ← symbolAt (offset + 1) b
  let third ← symbolAt (offset + 2) c
  let fourth ← symbolAt (offset + 3) d
  return [firstByte first second, middleByte second third, lastByte third fourth]

/-- Check the bits of the last symbol that belong to no byte. -/
def Reader.checkTrailing (reader : Reader) (offset : Nat) (byte : UInt8) (trailing : Nat) :
    Except TextError Unit :=
  if reader.allowsTrailingBits ∨ trailing = 0 then .ok () else .error (.invalidLastSymbol offset byte)

/-- Read the last group: two symbols at least, and `=` in place of the others. -/
def decodeLastGroup (reader : Reader) (offset : Nat) (a b c d : UInt8) : Except TextError (List UInt8) := do
  let first ← symbolAt offset a
  let second ← symbolAt (offset + 1) b
  if c = padByte then
    if d = padByte then
      reader.checkTrailing (offset + 1) b (second.val % 16)
      return [firstByte first second]
    else .error (.invalidSymbol (offset + 2) c)
  else
    let third ← symbolAt (offset + 2) c
    if d = padByte then
      reader.checkTrailing (offset + 2) c (third.val % 4)
      return [firstByte first second, middleByte second third]
    else
      let fourth ← symbolAt (offset + 3) d
      return [firstByte first second, middleByte second third, lastByte third fourth]

/-- Read what is left over behind the last group, which is not filled up and never enough: its bytes are looked at
all the same. -/
def decodeRagged (offset : Nat) (a : UInt8) : List UInt8 → Except TextError (List UInt8)
  | [] => do
    let _ ← symbolAt offset a
    .error (.invalidLength (offset + 1))
  | [b] => do
    let _ ← symbolAt offset a
    let _ ← symbolAt (offset + 1) b
    .error .invalidPadding
  | b :: c :: _ => do
    let _ ← symbolAt offset a
    let _ ← symbolAt (offset + 1) b
    if c = padByte then .error .invalidPadding
    else
      let _ ← symbolAt (offset + 2) c
      .error .invalidPadding

/-- Read standard text from `offset` on, the last group with its own rule. -/
def decodeGroups (reader : Reader) (offset : Nat) : List UInt8 → Except TextError (List UInt8)
  | [] => .ok []
  | [a, b, c, d] => decodeLastGroup reader offset a b c d
  | a :: b :: c :: d :: rest => do
    let group ← decodeGroup offset a b c d
    let bytes ← decodeGroups reader (offset + 4) rest
    return group ++ bytes
  | a :: ragged => decodeRagged offset a ragged

/-- A single byte behind the last group that cannot stand in a text, such as a line feed. -/
def strayByte? (text : List UInt8) : Option UInt8 :=
  if text.length % 4 = 1 then
    text.getLast?.filter fun byte => byte ≠ padByte && (sextet? byte).isNone
  else none

/-- Read standard text.  A stray byte at its end is reported before anything else. -/
def decodeStandard (reader : Reader) (text : List UInt8) : Except TextError (List UInt8) :=
  match strayByte? text with
  | some byte => .error (.invalidSymbol (text.length - 1) byte)
  | none => decodeGroups reader 0 text

/-- How many `=` a text of this many bytes lacks to a whole number of groups. -/
def missingPads (length : Nat) : Nat :=
  (4 - length % 4) % 4

def restorePadding (text : String) : String :=
  text ++ String.ofList (List.replicate (missingPads text.utf8ByteSize) '=')

/-- A text with every character spelled the standard way. -/
def standardText (text : String) : String :=
  String.ofList (text.toList.map toStandard)

def decode (text : String) : Except TextError (List UInt8) :=
  decodeStandard lenient (Utf8.bytes (restorePadding (standardText text)))

end Base64Url
end NodeKeys
