/-!
# Polynomials and their transform

Coefficients are numbers modulo the prime `q`.  A polynomial has 256 of them and is multiplied modulo
`X ^ 256 + 1`.  The transform turns this multiplication into the multiplication of coefficients at
the same place, in eight layers of butterflies.
-/

namespace NodeKeys
namespace MlDsa

/-- The modulus, a prime of the form `k * 512 + 1`. -/
abbrev modulus : Nat := 8380417

/-- A number modulo `q`. -/
abbrev Coefficient := Fin modulus

def Coefficient.ofNat (value : Nat) : Coefficient :=
  ⟨value % modulus, Nat.mod_lt value (by decide)⟩

/-- The coefficients of a polynomial, lowest degree first. -/
abbrev Polynomial := Vector Coefficient 256

namespace Polynomial

def zero : Polynomial := Vector.replicate 256 0

def zipWith (combine : Coefficient → Coefficient → Coefficient) (left right : Polynomial) : Polynomial :=
  Vector.ofFn fun i => combine (left.get i) (right.get i)

def add : Polynomial → Polynomial → Polynomial := zipWith (· + ·)

/-- The product of two transformed polynomials. -/
def pointwise : Polynomial → Polynomial → Polynomial := zipWith (· * ·)

/-- The coefficient of a degree, counted around the end. -/
def coefficient (polynomial : Polynomial) (degree : Nat) : Coefficient :=
  polynomial.get (Fin.ofNat 256 degree)

end Polynomial

/-- The low eight bits of a number in reverse order. -/
def reverseBits (value : Nat) : Nat :=
  (List.range 8).foldl (fun reversed i => 2 * reversed + (value.testBit i).toNat) 0

def power (base : Coefficient) : Nat → Coefficient
  | 0 => 1
  | exponent + 1 => power base exponent * base

/-- A root of unity of order 512. -/
def root : Coefficient := 1753

/-- The powers of the root that the butterflies multiply by, in the order they are used. -/
def twiddles : Vector Coefficient 256 :=
  Vector.ofFn fun i => power root (reverseBits i)

def twiddle (number : Nat) : Coefficient :=
  twiddles.get (Fin.ofNat 256 number)

/-- The distances between the two places of a butterfly, layer by layer. -/
def distances : List Nat := [128, 64, 32, 16, 8, 4, 2, 1]

/-- One layer of the transform: places `distance` apart are combined. -/
def spreadLayer (polynomial : Polynomial) (distance : Nat) : Polynomial :=
  Vector.ofFn fun i =>
    let factor := twiddle (128 / distance + i.val / (2 * distance))
    if i.val % (2 * distance) < distance then
      polynomial.get i + factor * polynomial.coefficient (i + distance)
    else
      polynomial.coefficient (i - distance) - factor * polynomial.get i

def transform (polynomial : Polynomial) : Polynomial :=
  distances.foldl spreadLayer polynomial

/-- One layer of the inverse transform, up to a factor of two. -/
def gatherLayer (polynomial : Polynomial) (distance : Nat) : Polynomial :=
  Vector.ofFn fun i =>
    let factor := twiddle (256 / distance - 1 - i.val / (2 * distance))
    if i.val % (2 * distance) < distance then
      polynomial.get i + polynomial.coefficient (i + distance)
    else
      factor * (polynomial.get i - polynomial.coefficient (i - distance))

/-- The inverse of 256. -/
def inverseSize : Coefficient := 8347681

/-- The polynomial with this transform. -/
def inverseTransform (transformed : Polynomial) : Polynomial :=
  (distances.reverse.foldl gatherLayer transformed).map (inverseSize * ·)

end MlDsa
end NodeKeys
