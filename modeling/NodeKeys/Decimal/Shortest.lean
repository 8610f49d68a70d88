/-!
# The fewest digits that read back

A binary floating-point number is `mantissa * 2 ^ exponent`.  All decimals in an interval around it read
back as the same number; the interval ends half-way to the neighbours, and the ends belong to it if the
mantissa is even.  The grids of decimals with one digit, two digits and so on are searched for a point in
this interval, and of several points the nearest is taken.  Which of two equally near ones is taken is for
the caller to say.

Everything here is exact arithmetic on natural numbers.
-/

namespace NodeKeys

/-- The decimal `digits * 10 ^ exponent`. -/
structure Decimal where
  digits : Nat
  exponent : Int
  deriving DecidableEq, Repr

namespace Decimal

/-- Which of two equally near decimals is taken. -/
inductive Tie where
  /-- The one whose last digit is even. -/
  | even
  /-- The larger one. -/
  | up
  deriving DecidableEq, Repr

/-- A positive fraction. -/
structure Fraction where
  numerator : Nat
  denominator : Nat

namespace Fraction

/-- Multiply by a power of a base with any exponent. -/
def scale (value : Fraction) (base : Nat) (exponent : Int) : Fraction :=
  if exponent < 0 then
    { value with denominator := value.denominator * base.pow exponent.natAbs }
  else { value with numerator := value.numerator * base.pow exponent.natAbs }

/-- Comparison by cross multiplication. -/
def less (left right : Fraction) : Bool :=
  left.numerator * right.denominator < right.numerator * left.denominator

end Fraction

/-- The numbers that read back as a floating-point number. -/
structure Interval where
  value : Fraction
  low : Fraction
  high : Fraction
  closed : Bool

/-- The interval around `mantissa * 2 ^ exponent`.  At the start of a range of exponents the neighbour below
is only half as far away. -/
def Interval.around (mantissa : Nat) (exponent : Int) (rangeStart : Bool) : Interval :=
  let quarter (count : Nat) : Fraction := Fraction.scale ⟨count, 1⟩ 2 (exponent - 2)
  { value := quarter (4 * mantissa)
    low := quarter (4 * mantissa - if rangeStart then 1 else 2)
    high := quarter (4 * mantissa + 2)
    closed := mantissa % 2 == 0 }

namespace Interval

def contains (interval : Interval) (decimal : Decimal) : Bool :=
  let point := Fraction.scale ⟨decimal.digits, 1⟩ 10 decimal.exponent
  if interval.closed then !point.less interval.low && !interval.high.less point
  else interval.low.less point && point.less interval.high

/-- The best point of the grid of multiples of `10 ^ exponent`, if one of them reads back. -/
def onGrid? (interval : Interval) (tie : Tie) (exponent : Int) : Option Decimal :=
  let scaled := interval.value.scale 10 (-exponent)
  let below := scaled.numerator / scaled.denominator
  let rest := scaled.numerator % scaled.denominator
  let low : Decimal := ⟨below, exponent⟩
  let high : Decimal := ⟨below + 1, exponent⟩
  let preferLow := 2 * rest < scaled.denominator
    || (2 * rest == scaled.denominator && tie == .even && below % 2 == 0)
  let first := if preferLow then low else high
  let second := if preferLow then high else low
  if interval.contains first then some first
  else if interval.contains second then some second
  else none

/-- Search grids from a coarse one to finer ones. -/
def search (interval : Interval) (tie : Tie) (exponent : Int) : (grids : Nat) → Decimal
  | 0 => ⟨0, 0⟩
  | grids + 1 =>
    match interval.onGrid? tie exponent with
    | some decimal => decimal
    | none => search interval tie (exponent - 1) grids

end Interval

/-- Whether a floating-point number is below zero or is the negative zero. -/
def isNegative (value : Float) : Bool :=
  value.toBits.toNat.testBit 63

/-- The first bit of a mantissa, which is not stored. -/
def hiddenBit : Nat := Nat.pow 2 52

/-- The shortest decimal that reads back as the magnitude of a finite number. -/
def shortest (tie : Tie) (value : Float) : Decimal :=
  let bits := value.toBits.toNat
  let biased := bits / hiddenBit % 2048
  let fraction := bits % hiddenBit
  let mantissa := if biased = 0 then fraction else fraction + hiddenBit
  let exponent : Int := (max biased 1 : Nat) - 1075
  if mantissa = 0 then ⟨0, 0⟩
  else
    let interval := Interval.around mantissa exponent (fraction == 0 && biased > 1)
    let size := (interval.value.numerator / interval.value.denominator).log2
    interval.search tie (size + 1 : Nat) 1200

def digitsOf (value : Nat) : List Char :=
  Nat.toDigits 10 value

/-- A decimal in positional notation, with at least one digit before the point and one after it. -/
def positional (decimal : Decimal) : List Char :=
  let digits := digitsOf decimal.digits
  let places := decimal.exponent.natAbs
  if 0 ≤ decimal.exponent then digits ++ List.replicate places '0' ++ ['.', '0']
  else
    let filled := List.replicate (places + 1 - digits.length) '0' ++ digits
    filled.take (filled.length - places) ++ '.' :: filled.drop (filled.length - places)

/-- A decimal with one digit before the point and a power of ten with its sign after `e`.  A single digit has
no point. -/
def scientific (decimal : Decimal) : List Char :=
  let digits := digitsOf decimal.digits
  let power := decimal.exponent + (digits.length - 1 : Nat)
  let mantissa := match digits with
    | first :: second :: rest => first :: '.' :: second :: rest
    | short => short
  mantissa ++ 'e' :: (if power < 0 then '-' else '+') :: digitsOf power.natAbs

/-- How many digits stand before the point of a decimal; zero or negative if it begins after the point. -/
def magnitude (decimal : Decimal) : Int :=
  decimal.exponent + (digitsOf decimal.digits).length

end Decimal
end NodeKeys
