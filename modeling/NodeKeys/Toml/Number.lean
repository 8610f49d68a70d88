import NodeKeys.Hex
import NodeKeys.Toml.Value

/-!
# TOML numbers

Underscores may stand between digits.  A number with a fraction or an exponent is floating point, rounded
to the nearest; one that is too large is refused, unless it is negative.  All others are integers and have to
fit into sixty-four bits with a sign.  Integers in another base than ten have no sign and may start with
zeros.

Every reader returns what follows the number, whatever that is.
-/

namespace NodeKeys
namespace Toml

/-- Digits that may follow a first digit, with underscores left out, and what follows them; none if an
underscore is not followed by a digit. -/
def moreDigits? (isDigit : Char → Bool) : List Char → Option (List Char × List Char)
  | '_' :: digit :: rest =>
    if isDigit digit then
      (moreDigits? isDigit rest).map fun (digits, after) => (digit :: digits, after)
    else none
  | ['_'] => none
  | symbol :: rest =>
    if isDigit symbol then
      (moreDigits? isDigit rest).map fun (digits, after) => (symbol :: digits, after)
    else some ([], symbol :: rest)
  | [] => some ([], [])

def digits? (isDigit : Char → Bool) : List Char → Option (List Char × List Char)
  | first :: rest =>
    if isDigit first then
      (moreDigits? isDigit rest).map fun (digits, after) => (first :: digits, after)
    else none
  | [] => none

/-- Digits of which the first is zero only if it is the only one. -/
def wholeDigits? : List Char → Option (List Char × List Char)
  | '0' :: rest => some (['0'], rest)
  | input => digits? Char.isDigit input

def valueOfDigits (base : Nat) (digits : List Char) : Nat :=
  digits.foldl (fun value digit => base * value + (Hex.value? digit).getD 0) 0

/-- The bound of integers: negative ones may reach it, the others stay below it. -/
def integerBound : Nat := Nat.pow 2 63

/-- An integer, if it is not too large. -/
def integer? (negative : Bool) (magnitude : Nat) : Option Value :=
  if negative then
    if magnitude ≤ integerBound then some (.integer (-(magnitude : Int))) else none
  else if magnitude < integerBound then some (.integer magnitude) else none

/-- Decimals of more digits before the point are infinite, and those with more zeros after it are zero. -/
def floatRange : Int := 400

/-- The floating-point number nearest to `significand * 10 ^ exponent`. -/
def nearestFloat (significand : Nat) (exponent : Int) : Float :=
  let size := Decimal.magnitude ⟨significand, exponent⟩
  if significand = 0 || size < -floatRange then 0
  else if floatRange < size then 1 / 0
  else Float.ofScientific significand (exponent < 0) exponent.natAbs

/-- A floating-point number, if it is not too large. -/
def float? (negative : Bool) (magnitude : Float) : Option Value :=
  if negative then some (.float (-magnitude))
  else if magnitude.isInf then none
  else some (.float magnitude)

/-- The digits after a point, if one stands here. -/
def fraction? : List Char → Option (Option (List Char) × List Char)
  | '.' :: rest => (digits? Char.isDigit rest).map fun (digits, after) => (some digits, after)
  | input => some (none, input)

/-- The power of ten after its letter, if that stands here. -/
def exponent? (input : List Char) : Option (Option Int × List Char) :=
  let power (negative : Bool) (rest : List Char) : Option (Option Int × List Char) :=
    (digits? Char.isDigit rest).map fun (digits, after) =>
      let size := (valueOfDigits 10 digits : Int)
      (some (if negative then -size else size), after)
  match input with
  | 'e' :: rest | 'E' :: rest =>
    match rest with
    | '-' :: more => power true more
    | '+' :: more => power false more
    | _ => power false rest
  | _ => some (none, input)

/-- Read a number in base ten, after its sign. -/
def readDecimal (negative : Bool) (input : List Char) : Option (Value × List Char) := do
  let (whole, afterWhole) ← wholeDigits? input
  let (fraction, afterFraction) ← fraction? afterWhole
  let (power, rest) ← exponent? afterFraction
  match fraction, power with
  | none, none => return (← integer? negative (valueOfDigits 10 whole), rest)
  | _, _ =>
    let decimals := fraction.getD []
    let significand := valueOfDigits 10 (whole ++ decimals)
    let magnitude := nearestFloat significand (power.getD 0 - decimals.length)
    return (← float? negative magnitude, rest)

/-- Read an integer of another base, after its mark. -/
def readInBase (base : Nat) (input : List Char) : Option (Value × List Char) := do
  let isDigit (symbol : Char) : Bool := (Hex.value? symbol).any (· < base)
  let (digits, rest) ← digits? isDigit input
  return (← integer? false (valueOfDigits base digits), rest)

def readNumber : List Char → Option (Value × List Char)
  | '0' :: 'x' :: rest => readInBase 16 rest
  | '0' :: 'o' :: rest => readInBase 8 rest
  | '0' :: 'b' :: rest => readInBase 2 rest
  | '-' :: rest => readUnsigned true rest
  | '+' :: rest => readUnsigned false rest
  | input => readUnsigned false input
where
  /-- Read the words for infinity and for no number, or a number in base ten. -/
  readUnsigned (negative : Bool) : List Char → Option (Value × List Char)
    | 'i' :: 'n' :: 'f' :: rest => some (.float (if negative then -1 / 0 else 1 / 0), rest)
    | 'n' :: 'a' :: 'n' :: rest => some (.float (0 / 0), rest)
    | input => readDecimal negative input

end Toml
end NodeKeys
