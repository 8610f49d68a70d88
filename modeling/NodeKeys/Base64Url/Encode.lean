import NodeKeys.Blocks
import NodeKeys.Base64Url.Alphabet

/-!
# Writing bytes as key text

Three bytes make four symbols.  One or two bytes left over at the end are filled with zero bits up to
a whole symbol.  Long inputs are written in blocks.  The block size is a whole number of groups of
three, so no block but the last ends inside a group, and the text does not show where blocks meet.
-/

namespace NodeKeys
namespace Base64Url

def lowSymbol (bits : Nat) : Char :=
  standardSymbol ⟨bits % 64, Nat.mod_lt bits (by decide)⟩

/-- Standard text: whole groups of four characters, filled with `=`. -/
def encodeStandard : List UInt8 → List Char
  | [] => []
  | [first] =>
    let bits := first.toNat * 16
    [lowSymbol (bits / 64), lowSymbol bits, '=', '=']
  | [first, second] =>
    let bits := (first.toNat * 256 + second.toNat) * 4
    [lowSymbol (bits / 4096), lowSymbol (bits / 64), lowSymbol bits, '=']
  | first :: second :: third :: rest =>
    let bits := (first.toNat * 256 + second.toNat) * 256 + third.toNat
    lowSymbol (bits / 262144) :: lowSymbol (bits / 4096) :: lowSymbol (bits / 64)
      :: lowSymbol bits :: encodeStandard rest

/-- Bytes written at a time: the largest multiple of three that is not above 32 KiB. -/
def blockSize : Nat := 32 * 1024 / 3 * 3

def encode (bytes : List UInt8) : String :=
  String.ofList (((blocks blockSize bytes).flatMap encodeStandard).filterMap ofStandard?)

end Base64Url
end NodeKeys
