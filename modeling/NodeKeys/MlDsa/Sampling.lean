import NodeKeys.Hash.Keccak
import NodeKeys.MlDsa.Ring

/-!
# Polynomials out of hash output

Both kinds of polynomials are drawn by rejection: a piece of hash output either gives a coefficient or
is passed over.  Uniform coefficients take three bytes each, small ones half a byte.  Output is drawn in
blocks until there are 256 coefficients.  The number of blocks is bounded, and the bound is far beyond
what is ever needed: on average five blocks are enough for uniform coefficients and two for small ones.
-/

namespace NodeKeys
namespace MlDsa

open Hash

/-- The bound on the coefficients of secret polynomials. -/
def smallBound : Nat := 4

/-- The uniform coefficients in a sequence of bytes: the low 23 bits of every three bytes, if they are
below the modulus. -/
def uniformCoefficients : List UInt8 → List Coefficient
  | low :: middle :: high :: rest =>
    let value := low.toNat + 256 * middle.toNat + 65536 * (high.toNat % 128)
    if bounded : value < modulus then ⟨value, bounded⟩ :: uniformCoefficients rest
    else uniformCoefficients rest
  | _ => []

/-- The small coefficient of half a byte. -/
def smallCoefficient? (half : Nat) : Option Coefficient :=
  if half ≤ 2 * smallBound then some (.ofNat smallBound - .ofNat half) else none

/-- The small coefficients in a sequence of bytes, the low half of each byte first. -/
def smallCoefficients (bytes : List UInt8) : List Coefficient :=
  (bytes.flatMap fun byte => [byte.toNat % 16, byte.toNat / 16]).filterMap smallCoefficient?

/-- Draw blocks of output until there are enough coefficients. -/
def gather (rate : Nat) (read : List UInt8 → List Coefficient) :
    (bound : Nat) → Keccak.State → List Coefficient → List Coefficient
  | 0, _, found => found
  | bound + 1, state, found =>
    if 256 ≤ found.length then found
    else gather rate read bound (Keccak.permute state) (found ++ read (state.output rate))

/-- The polynomial of the first 256 coefficients. -/
def ofCoefficients (coefficients : List Coefficient) : Polynomial :=
  let known := coefficients.toArray
  Vector.ofFn fun i => known.getD i (.ofNat 0)

def blockBound : Nat := 64

/-- A polynomial with uniform coefficients, drawn from SHAKE128. -/
def uniformPolynomial (source : List UInt8) : Polynomial :=
  ofCoefficients <|
    gather Keccak.shake128Rate uniformCoefficients blockBound
      (Keccak.absorbAll Keccak.shake128Rate source) []

/-- A polynomial with small coefficients, drawn from SHAKE256. -/
def smallPolynomial (source : List UInt8) : Polynomial :=
  ofCoefficients <|
    gather Keccak.shake256Rate smallCoefficients blockBound
      (Keccak.absorbAll Keccak.shake256Rate source) []

end MlDsa
end NodeKeys
