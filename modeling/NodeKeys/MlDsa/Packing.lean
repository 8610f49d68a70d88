import NodeKeys.MlDsa.Ring

/-!
# Polynomials as bytes

Each coefficient is written in a fixed number of bits, low bit first, and the bits of all coefficients
together are cut into bytes.  A polynomial has 256 coefficients, so the bits always fill whole bytes:
`width` bits a coefficient make `32 * width` bytes.
-/

namespace NodeKeys
namespace MlDsa

/-- The low `width` bits of a number, lowest first. -/
def lowBits (width value : Nat) : List Bool :=
  (List.range width).map fun i => value.testBit i

def byteOfBits (bits : List Bool) : UInt8 :=
  UInt8.ofNat (bits.foldr (fun bit high => bit.toNat + 2 * high) 0)

def bytesOfBits : List Bool → List UInt8
  | a :: b :: c :: d :: e :: f :: g :: h :: rest =>
    byteOfBits [a, b, c, d, e, f, g, h] :: bytesOfBits rest
  | _ => []

/-- Write numbers in `width` bits each. -/
def pack (width : Nat) (values : Vector Nat 256) : List UInt8 :=
  bytesOfBits (values.toList.flatMap (lowBits width))

theorem length_bytesOfBits (bits : List Bool) : (bytesOfBits bits).length = bits.length / 8 := by
  fun_induction bytesOfBits bits with
  | case1 a b c d e f g h rest ih => simp [ih]; omega
  | case2 bits short =>
    have few : bits.length < 8 := by
      match bits, short with
      | [], _ | [_], _ | [_, _], _ | [_, _, _], _ | [_, _, _, _], _ | [_, _, _, _, _], _
      | [_, _, _, _, _, _], _ | [_, _, _, _, _, _, _], _ => simp
      | a :: b :: c :: d :: e :: f :: g :: h :: rest, short =>
        exact (short a b c d e f g h rest rfl).elim
    rw [Nat.div_eq_of_lt few]
    rfl

/-- A packed polynomial has `32 * width` bytes, whatever its coefficients are. -/
theorem length_pack (width : Nat) (values : Vector Nat 256) :
    (pack width values).length = 32 * width := by
  have bits : (values.toList.flatMap (lowBits width)).length = 256 * width := by
    rw [List.length_flatMap]
    simp only [lowBits, List.length_map, List.length_range, List.map_const']
    rw [List.sum_replicate_nat, Vector.length_toList]
  rw [pack, length_bytesOfBits, bits]
  omega

end MlDsa
end NodeKeys
