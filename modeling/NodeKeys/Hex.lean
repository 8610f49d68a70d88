/-!
# Hexadecimal text of bytes

Two lower-case digits a byte, the high half first.  Reading accepts digits of either case.
-/

namespace NodeKeys
namespace Hex

def digit (value : Nat) : Char :=
  if value < 10 then Char.ofNat (48 + value) else Char.ofNat (87 + value)

def value? (symbol : Char) : Option Nat :=
  let code := symbol.toNat
  if 48 ≤ code ∧ code ≤ 57 then some (code - 48)
  else if 97 ≤ code ∧ code ≤ 102 then some (code - 87)
  else if 65 ≤ code ∧ code ≤ 70 then some (code - 55)
  else none

def ofByte (byte : UInt8) : List Char :=
  [digit (byte.toNat / 16), digit (byte.toNat % 16)]

def ofBytes (bytes : List UInt8) : String :=
  String.ofList (bytes.flatMap ofByte)

/-- Read pairs of digits; a lone or foreign character makes the text unreadable. -/
def bytesOfDigits? : List Char → Option (List UInt8)
  | [] => some []
  | high :: low :: rest => do
    let upper ← value? high
    let lower ← value? low
    let bytes ← bytesOfDigits? rest
    return UInt8.ofNat (16 * upper + lower) :: bytes
  | [_] => none

def toBytes? (text : String) : Option (List UInt8) :=
  bytesOfDigits? text.toList

end Hex
end NodeKeys
