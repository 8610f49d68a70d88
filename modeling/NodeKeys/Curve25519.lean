/-!
# X25519

Scalar multiplication on the curve `v ^ 2 = u ^ 3 + 486662 * u ^ 2 + u` modulo `2 ^ 255 - 19`, by the
`u` coordinate alone.  The ladder keeps two neighbouring multiples of the base point as fractions and
takes one step for each bit of the scalar, highest first.

A private key is thirty-two bytes of any value.  Five of its bits are fixed when it is used as a scalar,
never in the stored key.
-/

namespace NodeKeys
namespace Curve25519

def modulus : Nat := Nat.pow 2 255 - 19

/-- Difference of two numbers below the modulus. -/
def subtract (left right : Nat) : Nat :=
  (left + (modulus - right)) % modulus

/-- Repeated squaring on the bits of the exponent, lowest first. -/
def power (base exponent : Nat) : Nat :=
  ((List.range 256).foldl (fun (result, square) i =>
    (if exponent.testBit i then result * square % modulus else result, square * square % modulus))
    (1, base)).1

/-- Two fractions `u / z`, of neighbouring multiples of the base point. -/
structure Ladder where
  lowU : Nat
  lowZ : Nat
  highU : Nat
  highZ : Nat

def Ladder.swap (ladder : Ladder) : Ladder :=
  ⟨ladder.highU, ladder.highZ, ladder.lowU, ladder.lowZ⟩

/-- Double the low multiple, and add the two into the high one. -/
def Ladder.double (base : Nat) (ladder : Ladder) : Ladder :=
  let sum := (ladder.lowU + ladder.lowZ) % modulus
  let sumSquare := sum * sum % modulus
  let difference := subtract ladder.lowU ladder.lowZ
  let differenceSquare := difference * difference % modulus
  let gap := subtract sumSquare differenceSquare
  let crossed := subtract ladder.highU ladder.highZ * sum % modulus
  let straight := (ladder.highU + ladder.highZ) * difference % modulus
  let highRoot := (crossed + straight) % modulus
  let highDifference := subtract crossed straight
  { lowU := sumSquare * differenceSquare % modulus
    lowZ := gap * (sumSquare + 121665 * gap) % modulus
    highU := highRoot * highRoot % modulus
    highZ := base * (highDifference * highDifference) % modulus }

/-- One step of the ladder; a set bit moves both multiples up. -/
def Ladder.step (base : Nat) (ladder : Ladder) (bit : Bool) : Ladder :=
  if bit then (ladder.swap.double base).swap else ladder.double base

/-- The `u` coordinate of a multiple of the point with coordinate `base`. -/
def multiply (scalar base : Nat) : Nat :=
  let bits := (List.range 255).reverse.map scalar.testBit
  let result := bits.foldl (Ladder.step base) ⟨1, 0, base, 1⟩
  result.lowU * power result.lowZ (modulus - 2) % modulus

def ofLittleEndian (bytes : List UInt8) : Nat :=
  bytes.foldr (fun byte high => byte.toNat + 256 * high) 0

def toLittleEndian (value : Nat) : List UInt8 :=
  (List.range 32).map fun i => UInt8.ofNat (value >>> (8 * i))

def highestBit : Nat := Nat.pow 2 254

/-- The scalar of a private key: a multiple of eight with its highest bit at place 254. -/
def scalar (privateKey : List UInt8) : Nat :=
  let value := ofLittleEndian privateKey
  value % highestBit / 8 * 8 + highestBit

def basePoint : Nat := 9

def publicKey (privateKey : List UInt8) : List UInt8 :=
  toLittleEndian (multiply (scalar privateKey) basePoint)

theorem length_publicKey (privateKey : List UInt8) : (publicKey privateKey).length = 32 := by
  simp [publicKey, toLittleEndian]

end Curve25519
end NodeKeys
