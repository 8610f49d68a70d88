import Mathlib.Algebra.Group.Nat.Defs
import NodeKeys.Proofs.Base64Url.RoundTrip

/-!
# Symbols and bytes as strings of bits

A symbol holds six bits and a byte eight.  Laid end to end, the bits of the symbols are the bits of the bytes
that they stand for, and what is left over at the end is less than a byte.  The codec works in groups of four
symbols and does not mention single bits; `byteBits_joined` says that both are the same.
-/

namespace NodeKeys
namespace Base64Url

/-! ## The bits of a number -/

/-- The low bits of a number, the most significant of them first. -/
def bits : (width number : Nat) → List Bool
  | 0, _ => []
  | width + 1, number => number.testBit width :: bits width number

theorem length_bits (width number : Nat) : (bits width number).length = width := by
  induction width with
  | zero => rfl
  | succ width inductionHypothesis => rw [bits, List.length_cons, inductionHypothesis]

theorem bits_add (high low number : Nat) :
    bits (high + low) number = bits high (number / 2 ^ low) ++ bits low number := by
  induction high with
  | zero =>
    rw [Nat.zero_add]
    rfl
  | succ high inductionHypothesis =>
    have shift : high + 1 + low = high + low + 1 := by omega
    rw [shift, bits, bits, Nat.testBit_div_two_pow, inductionHypothesis]
    rfl

theorem bits_mod {width modulus : Nat} (within : width ≤ modulus) (number : Nat) :
    bits width (number % 2 ^ modulus) = bits width number := by
  induction width with
  | zero => rfl
  | succ width inductionHypothesis =>
    have low : width < modulus := within
    rw [bits, bits, Nat.testBit_mod_two_pow, decide_eq_true low, Bool.true_and,
      inductionHypothesis (Nat.le_of_lt low)]

/-- Two numbers written one after the other. -/
theorem bits_join (high low upper : Nat) {lower : Nat} (small : lower < 2 ^ low) :
    bits (high + low) (upper * 2 ^ low + lower) = bits high upper ++ bits low lower := by
  have positive : 0 < 2 ^ low := Nat.two_pow_pos low
  have quotient : (upper * 2 ^ low + lower) / 2 ^ low = upper := by
    rw [Nat.mul_comm, Nat.mul_add_div positive, Nat.div_eq_of_lt small, Nat.add_zero]
  have remainder : (upper * 2 ^ low + lower) % 2 ^ low = lower := by
    rw [Nat.mul_comm, Nat.mul_add_mod, Nat.mod_eq_of_lt small]
  rw [bits_add, quotient, ← bits_mod (Nat.le_refl low) (upper * 2 ^ low + lower), remainder]

theorem bits_split (high low number : Nat) :
    bits (high + low) number = bits high (number / 2 ^ low) ++ bits low (number % 2 ^ low) := by
  rw [bits_add, bits_mod (Nat.le_refl low)]

theorem testBit_of_bits {width first second : Nat} (same : bits width first = bits width second)
    {position : Nat} (low : position < width) : first.testBit position = second.testBit position := by
  induction width with
  | zero => cases low
  | succ width inductionHypothesis =>
    rw [bits, bits] at same
    injection same with head tail
    by_cases top : position = width
    · rw [top]
      exact head
    · exact inductionHypothesis tail (by omega)

/-- A number is known from its bits. -/
theorem eq_of_bits {width first second : Nat} (firstSmall : first < 2 ^ width)
    (secondSmall : second < 2 ^ width) (same : bits width first = bits width second) : first = second := by
  apply Nat.eq_of_testBit_eq
  intro position
  by_cases low : position < width
  · exact testBit_of_bits same low
  · have above : 2 ^ width ≤ 2 ^ position := Nat.pow_le_pow_right (by decide) (Nat.le_of_not_lt low)
    rw [Nat.testBit_lt_two_pow (Nat.lt_of_lt_of_le firstSmall above),
      Nat.testBit_lt_two_pow (Nat.lt_of_lt_of_le secondSmall above)]

/-! ## The bits of symbols and of bytes -/

/-- The bits of symbols, laid end to end. -/
def sextetBits (values : List Sextet) : List Bool :=
  values.flatMap fun value => bits 6 value.val

/-- The bits of bytes, laid end to end. -/
def byteBits (bytes : List UInt8) : List Bool :=
  bytes.flatMap fun byte => bits 8 byte.toNat

theorem sextetBits_cons (value : Sextet) (rest : List Sextet) :
    sextetBits (value :: rest) = bits 6 value.val ++ sextetBits rest := rfl

theorem byteBits_cons (byte : UInt8) (rest : List UInt8) :
    byteBits (byte :: rest) = bits 8 byte.toNat ++ byteBits rest := rfl

/-- Bytes are known from their bits. -/
theorem byteBits_injective {first second : List UInt8} (same : byteBits first = byteBits second) :
    first = second := by
  have longer (byte : UInt8) (rest : List UInt8) : byteBits (byte :: rest) ≠ [] := by
    intro none
    have length := congrArg List.length none
    rw [byteBits_cons, List.length_append, length_bits, List.length_nil] at length
    omega
  induction first generalizing second with
  | nil =>
    cases second with
    | nil => rfl
    | cons byte rest => exact absurd same.symm (longer byte rest)
  | cons byte rest inductionHypothesis =>
    cases second with
    | nil => exact absurd same (longer byte rest)
    | cons other more =>
      rw [byteBits_cons, byteBits_cons] at same
      have parts := List.append_inj same (by rw [length_bits, length_bits])
      have small : byte.toNat < 2 ^ 8 := byte.toNat_lt
      have otherSmall : other.toNat < 2 ^ 8 := other.toNat_lt
      have sameByte : byte = other := UInt8.toNat_inj.mp (eq_of_bits small otherSmall parts.1)
      rw [sameByte, inductionHypothesis parts.2]

/-! ## Bytes that span two symbols -/

theorem toNat_firstByte (first second : Sextet) :
    (firstByte first second).toNat = first.val * 4 + second.val / 16 := by
  rw [firstByte, UInt8.toNat_ofNat']
  omega

theorem toNat_middleByte (second third : Sextet) :
    (middleByte second third).toNat = second.val % 16 * 16 + third.val / 4 := by
  rw [middleByte, UInt8.toNat_ofNat']
  omega

theorem toNat_lastByte (third fourth : Sextet) :
    (lastByte third fourth).toNat = third.val % 4 * 64 + fourth.val := by
  rw [lastByte, UInt8.toNat_ofNat']
  omega

theorem bits_firstByte (first second : Sextet) :
    bits 8 (firstByte first second).toNat = bits 6 first.val ++ bits 2 (second.val / 16) := by
  rw [toNat_firstByte]
  exact bits_join 6 2 first.val (by omega)

theorem bits_middleByte (second third : Sextet) :
    bits 8 (middleByte second third).toNat = bits 4 (second.val % 16) ++ bits 4 (third.val / 4) := by
  rw [toNat_middleByte]
  exact bits_join 4 4 (second.val % 16) (by omega)

theorem bits_lastByte (third fourth : Sextet) :
    bits 8 (lastByte third fourth).toNat = bits 2 (third.val % 4) ++ bits 6 fourth.val := by
  rw [toNat_lastByte]
  exact bits_join 2 6 (third.val % 4) (by omega)

/-- A symbol that ends one byte and begins the next. -/
theorem bits_two_four (value : Sextet) :
    bits 6 value.val = bits 2 (value.val / 16) ++ bits 4 (value.val % 16) :=
  bits_split 2 4 value.val

theorem bits_four_two (value : Sextet) :
    bits 6 value.val = bits 4 (value.val / 4) ++ bits 2 (value.val % 4) :=
  bits_split 4 2 value.val

/-! ## Groups -/

/-- The bytes that symbols hold, group by group. -/
def joined : List Sextet → List UInt8
  | [] | [_] => []
  | [first, second] => [firstByte first second]
  | [first, second, third] => [firstByte first second, middleByte second third]
  | first :: second :: third :: fourth :: rest =>
    firstByte first second :: middleByte second third :: lastByte third fourth :: joined rest

theorem length_joined (values : List Sextet) : (joined values).length = 6 * values.length / 8 := by
  fun_induction joined values with
  | case5 first second third fourth rest inductionHypothesis =>
    simp only [List.length_cons, inductionHypothesis]
    omega
  | _ => simp only [List.length_cons, List.length_nil]

/-- The bytes of a text are its bits as far as they make whole bytes. -/
theorem byteBits_joined (values : List Sextet) :
    byteBits (joined values) = (sextetBits values).take (8 * (6 * values.length / 8)) := by
  fun_induction joined values with
  | case1 => rfl
  | case2 value =>
    have none : 8 * (6 * [value].length / 8) = 0 := by simp only [List.length_cons, List.length_nil]
    rw [none]
    rfl
  | case3 first second =>
    have one : 8 * (6 * [first, second].length / 8) = 8 := by
      simp only [List.length_cons, List.length_nil]
    have symbols : sextetBits [first, second] =
        bits 8 (firstByte first second).toNat ++ bits 4 (second.val % 16) := by
      rw [bits_firstByte, List.append_assoc]
      exact congrArg (bits 6 first.val ++ ·) ((List.append_nil _).trans (bits_two_four second))
    rw [symbols, one, List.take_left' (length_bits _ _)]
    exact List.append_nil _
  | case4 first second third =>
    have two : 8 * (6 * [first, second, third].length / 8) = 16 := by
      simp only [List.length_cons, List.length_nil]
    have symbols : sextetBits [first, second, third] =
        (bits 8 (firstByte first second).toNat ++ bits 8 (middleByte second third).toNat) ++
          bits 2 (third.val % 4) := by
      rw [bits_firstByte, bits_middleByte, sextetBits_cons, sextetBits_cons, sextetBits_cons,
        bits_two_four second, bits_four_two third]
      simp only [sextetBits, List.flatMap_nil, List.append_nil, List.append_assoc]
    have length : (bits 8 (firstByte first second).toNat ++
        bits 8 (middleByte second third).toNat).length = 16 := by
      rw [List.length_append, length_bits, length_bits]
    rw [symbols, two, List.take_left' length]
    exact congrArg (bits 8 (firstByte first second).toNat ++ ·) (List.append_nil _)
  | case5 first second third fourth rest inductionHypothesis =>
    have symbols : sextetBits (first :: second :: third :: fourth :: rest) =
        (bits 8 (firstByte first second).toNat ++ bits 8 (middleByte second third).toNat ++
          bits 8 (lastByte third fourth).toNat) ++ sextetBits rest := by
      rw [bits_firstByte, bits_middleByte, bits_lastByte, sextetBits_cons, sextetBits_cons, sextetBits_cons,
        sextetBits_cons, bits_two_four second, bits_four_two third]
      simp only [List.append_assoc]
    have length : (bits 8 (firstByte first second).toNat ++ bits 8 (middleByte second third).toNat ++
        bits 8 (lastByte third fourth).toNat).length = 24 := by
      simp only [List.length_append, length_bits]
    have whole : 8 * (6 * (first :: second :: third :: fourth :: rest).length / 8) =
        24 + 8 * (6 * rest.length / 8) := by
      simp only [List.length_cons]
      omega
    rw [symbols, whole, ← length, List.take_length_add_append, byteBits_cons, byteBits_cons, byteBits_cons,
      inductionHypothesis]
    simp only [List.append_assoc]

end Base64Url
end NodeKeys
