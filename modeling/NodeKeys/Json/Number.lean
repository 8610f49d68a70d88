import NodeKeys.Decimal.Shortest
import NodeKeys.Mismatch

/-!
# JSON numbers

A number without fraction and exponent that fits into sixty-four bits is an integer.  All others are
floating point: as many leading digits as fit into sixty-four bits, times a power of ten.  The product is
made in floating point and is not always the nearest number to the decimal that was written.
-/

namespace NodeKeys
namespace Json

/-- A number. -/
inductive Number where
  | integer (value : Int)
  | float (value : Float)

namespace Number

def largest : Nat := Nat.pow 2 64 - 1

def digitValue (symbol : Char) : Nat := symbol.toNat - 48

/-- Take digits into a number as long as it stays below the largest integer; the rest is left over. -/
def accumulate (value : Nat) : List Char → Nat × List Char
  | [] => (value, [])
  | digit :: rest =>
    let next := value * 10 + digitValue digit
    if largest < next then (value, digit :: rest) else accumulate next rest

/-- The floating-point number nearest to a power of ten. -/
def powerOfTen (exponent : Nat) : Float :=
  Float.ofScientific 1 false exponent

/-- Divide by a power of ten of any size, in steps that can be represented. -/
def divideByPower (value : Float) (exponent : Nat) : (steps : Nat) → Float
  | 0 => value
  | steps + 1 =>
    if exponent ≤ 308 then value / powerOfTen exponent
    else if value == 0 then value
    else divideByPower (value / powerOfTen 308) (exponent - 308) steps

/-- A significand times a power of ten; none if it is too large. -/
def ofParts? (negative : Bool) (significand : Nat) (exponent : Int) : Option Number :=
  let base := Float.ofNat significand
  let magnitude? :=
    if exponent < 0 then some (divideByPower base exponent.natAbs 4)
    else if 308 < exponent then if base == 0 then some base else none
    else
      let product := base * powerOfTen exponent.natAbs
      if product.isInf then none else some product
  magnitude?.map fun magnitude => float (if negative then -magnitude else magnitude)

def largestExponent : Nat := Nat.pow 2 31 - 1

/-- The parts of a number as it is written. -/
structure Written where
  negative : Bool
  whole : List Char
  fraction : Option (List Char)
  /-- Whether the exponent is negative, and its digits. -/
  exponent : Option (Bool × List Char)

def spanDigits (input : List Char) : List Char × List Char :=
  (input.takeWhile Char.isDigit, input.dropWhile Char.isDigit)

/-- Read the exponent, if there is one; none if it has no digits. -/
def spanExponent? (input : List Char) : Option (Option (Bool × List Char) × List Char) :=
  let digitsAfter (negative : Bool) (rest : List Char) :=
    match spanDigits rest with
    | ([], _) => none
    | (digits, after) => some (some (negative, digits), after)
  match input with
  | 'e' :: rest | 'E' :: rest =>
    match rest with
    | '-' :: more => digitsAfter true more
    | '+' :: more => digitsAfter false more
    | _ => digitsAfter false rest
  | _ => some (none, input)

/-- Read a number: its parts and what follows it.  A zero is never followed by more digits. -/
def span? (input : List Char) : Option (Written × List Char) := do
  let (negative, unsigned) := match input with
    | '-' :: rest => (true, rest)
    | _ => (false, input)
  let (whole, afterWhole) := spanDigits unsigned
  match whole with
  | [] => none
  | '0' :: _ :: _ => none
  | _ =>
    let (fraction, afterFraction) ← match afterWhole with
      | '.' :: rest =>
        match spanDigits rest with
        | ([], _) => none
        | (digits, after) => some (some digits, after)
      | _ => some (none, afterWhole)
    let (exponent, rest) ← spanExponent? afterFraction
    return (⟨negative, whole, fraction, exponent⟩, rest)

/-- The number that is written; none if it is too large. -/
def ofWritten? (written : Written) : Option Number :=
  let (significand, surplus) := accumulate 0 written.whole
  match surplus, written.fraction, written.exponent with
  | [], none, none =>
    if !written.negative then some (integer significand)
    else if significand = 0 || Nat.pow 2 63 < significand then
      some (float (-(Float.ofNat significand)))
    else some (integer (-(significand : Int)))
  | _, _, _ =>
    let decimals := written.fraction.getD []
    let (significand, unused) := accumulate significand decimals
    let start : Int := (surplus.length : Int) - ((decimals.length - unused.length : Nat) : Int)
    match written.exponent with
    | none => ofParts? written.negative significand start
    | some (below, digits) =>
      let power := digits.foldl (fun value digit => value * 10 + digitValue digit) 0
      if largestExponent < power then
        if significand ≠ 0 && !below then none
        else some (float (if written.negative then -0.0 else 0.0))
      else ofParts? written.negative significand (if below then start - power else start + power)

/-- A floating-point number in words: positional between `10 ^ -5` and `10 ^ 16`, else with a power. -/
def floatText (value : Float) : String :=
  let decimal := Decimal.shortest .even value
  let size := Decimal.magnitude decimal
  let digits :=
    if decimal.digits = 0 then ['0', '.', '0']
    else if -5 < size && size ≤ 16 then Decimal.positional decimal
    else Decimal.scientific decimal
  String.ofList (if Decimal.isNegative value then '-' :: digits else digits)

/-- The number as a value that was found. -/
def found : Number → Found
  | integer value => .integer value
  | float value => .float (floatText value)

end Number
end Json
end NodeKeys
