import NodeKeys.MlDsa.Packing
import NodeKeys.MlDsa.Sampling

/-!
# ML-DSA-65 key generation

The key pair of FIPS 204 with six rows and five columns.  A seed of thirty-two bytes is expanded to a
public matrix and two secret vectors of small polynomials; `t = A * s1 + s2` is split into a high part,
which is published, and thirteen low bits, which stay with the signing key.

Both keys have a fixed size, because every polynomial is packed into the same number of bytes.
-/

namespace NodeKeys
namespace MlDsa

open Hash

def rows : Nat := 6

def columns : Nat := 5

/-- The bits of a coefficient that are not published. -/
def droppedBits : Nat := 13

def verificationKeyLength : Nat := 1952

def signingKeyLength : Nat := 4032

/-- A coefficient without its low bits, rounded to nearest, a half down. -/
def highPart (value : Coefficient) : Nat :=
  (value.val + 4095) / 8192

/-- The low bits that the high part leaves, counted down from their largest value. -/
def lowPartBelowLargest (value : Coefficient) : Nat :=
  4096 + 8192 * highPart value - value.val

/-- How far a small coefficient is below the largest one. -/
def belowSmallBound (value : Coefficient) : Nat :=
  (Coefficient.ofNat smallBound - value).val

/-- The entry of the public matrix, already transformed. -/
def matrixEntry (publicSeed : List UInt8) (row column : Nat) : Polynomial :=
  uniformPolynomial (publicSeed ++ [UInt8.ofNat column, UInt8.ofNat row])

/-- The small polynomial of this number. -/
def secretPolynomial (privateSeed : List UInt8) (number : Nat) : Polynomial :=
  smallPolynomial (privateSeed ++ [UInt8.ofNat number, UInt8.ofNat (number / 256)])

def applyRow (publicSeed : List UInt8) (row : Nat) (transformed : List Polynomial) : Polynomial :=
  (transformed.zipIdx.map fun (polynomial, column) =>
    (matrixEntry publicSeed row column).pointwise polynomial).foldl Polynomial.add Polynomial.zero

/-- The two halves of a key pair. -/
structure KeyPair where
  verificationKey : List UInt8
  signingKey : List UInt8

def generate (seed : List UInt8) : KeyPair :=
  let expanded := Keccak.shake256 (seed ++ [UInt8.ofNat rows, UInt8.ofNat columns]) 128
  let publicSeed := expanded.take 32
  let privateSeed := (expanded.drop 32).take 64
  let signingSeed := (expanded.drop 96).take 32
  let first := (List.range columns).map (secretPolynomial privateSeed)
  let second := (List.range rows).map fun row => secretPolynomial privateSeed (columns + row)
  let transformed := first.map transform
  let products := (List.range rows).map fun row =>
    inverseTransform (applyRow publicSeed row transformed)
  let sums := List.zipWith Polynomial.add products second
  let verificationKey := publicSeed ++ sums.flatMap fun sum => pack 10 (sum.map highPart)
  let small (polynomial : Polynomial) := pack 4 (polynomial.map belowSmallBound)
  { verificationKey
    signingKey := publicSeed ++ signingSeed ++ Keccak.shake256 verificationKey 64
      ++ first.flatMap small ++ second.flatMap small
      ++ sums.flatMap fun sum => pack 13 (sum.map lowPartBelowLargest) }

private theorem length_flatMap_const {α : Type} (items : List α) (packed : α → List UInt8) (size : Nat)
    (sized : ∀ item, (packed item).length = size) :
    (items.flatMap packed).length = items.length * size := by
  induction items with
  | nil => simp
  | cons item rest ih => simp [ih, sized, Nat.succ_mul, Nat.add_comm]

theorem length_verificationKey (seed : List UInt8) :
    (generate seed).verificationKey.length = verificationKeyLength := by
  simp only [generate, List.length_append, List.length_take, Keccak.length_shake256]
  rw [length_flatMap_const _ _ 320 fun _ => length_pack 10 _]
  simp [rows, verificationKeyLength]

theorem length_signingKey (seed : List UInt8) :
    (generate seed).signingKey.length = signingKeyLength := by
  simp only [generate, List.length_append, List.length_take, List.length_drop,
    Keccak.length_shake256]
  rw [length_flatMap_const _ _ 416 fun _ => length_pack 13 _,
    length_flatMap_const _ _ 128 fun _ => length_pack 4 _,
    length_flatMap_const _ _ 128 fun _ => length_pack 4 _]
  simp [rows, columns, signingKeyLength]

end MlDsa
end NodeKeys
