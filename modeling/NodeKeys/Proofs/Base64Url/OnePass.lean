import Mathlib.Data.List.GetD
import Mathlib.Tactic.Ring
import NodeKeys.Proofs.Base64Url.Canonical

/-!
# Key text in one pass

Seen from outside, key text knows neither blocks nor groups of three.  The bits of all the bytes are laid end to end
and followed by zeros; symbol number `index` is the one for the six bits from place `6 * index` on, and there are as
many symbols as it takes to show every bit.  `onePass` says only this.

What is written in blocks is the same text.  The argument goes through the values of the symbols: laid end to end, their
bits are those of the bytes and fewer than six zeros.
-/

namespace NodeKeys
namespace Base64Url

/-! ## The text of a string of bits -/

/-- The symbols of key text, in the order of their values. -/
def urlSafeAlphabet : List Char :=
  "ABCDEFGHIJKLMNOPQRSTUVWXYZabcdefghijklmnopqrstuvwxyz0123456789-_".toList

/-- The number that bits spell, the most significant of them first. -/
def ofBits (bits : List Bool) : Nat :=
  bits.foldl (fun number bit => 2 * number + bit.toNat) 0

/-- The bit of the bytes at this place.  After the last byte there are zeros. -/
def bitAt (bytes : List UInt8) (place : Nat) : Bool :=
  (byteBits bytes).getD place false

/-- The number that the six bits of this symbol spell. -/
def symbolNumber (bytes : List UInt8) (index : Nat) : Nat :=
  ofBits ((List.range 6).map fun offset => bitAt bytes (6 * index + offset))

/-- How many symbols this many bytes need: four for three bytes, rounded up. -/
def symbolsFor (length : Nat) : Nat :=
  (4 * length + 2) / 3

/-- The symbols of the bytes, each from its own six bits. -/
def onePass (bytes : List UInt8) : List Char :=
  (List.range (symbolsFor bytes.length)).map fun index =>
    urlSafeAlphabet.getD (symbolNumber bytes index) '='

/-- How many `=` fill the text of this many bytes up: two after one byte in the last group, one after two. -/
def closingPads (length : Nat) : Nat :=
  match length % 3 with
  | 1 => 2
  | 2 => 1
  | _ => 0

/-! ## Numbers and their bits -/

theorem foldl_bits (start width number : Nat) :
    (bits width number).foldl (fun number bit => 2 * number + bit.toNat) start =
      start * 2 ^ width + number % 2 ^ width := by
  induction width generalizing start with
  | zero => simp only [bits, List.foldl_nil, Nat.pow_zero, Nat.mul_one, Nat.mod_one, Nat.add_zero]
  | succ width inductionHypothesis =>
    rw [bits, List.foldl_cons, inductionHypothesis, Nat.toNat_testBit, Nat.mod_pow_succ, Nat.pow_succ]
    ring

theorem ofBits_bits (width number : Nat) : ofBits (bits width number) = number % 2 ^ width := by
  rw [ofBits, foldl_bits, Nat.zero_mul, Nat.zero_add]

theorem length_byteBits (bytes : List UInt8) : (byteBits bytes).length = 8 * bytes.length := by
  rw [byteBits, List.length_flatMap]
  simp only [length_bits, List.map_const', List.sum_replicate_nat, Nat.mul_comm]

theorem length_sextetBits (values : List Sextet) : (sextetBits values).length = 6 * values.length := by
  rw [sextetBits, List.length_flatMap]
  simp only [length_bits, List.map_const', List.sum_replicate_nat, Nat.mul_comm]

/-- The six bits from place `6 * index` on are those of the symbol with this index. -/
theorem bits_of_sextetBits {values : List Sextet} {index : Nat} {value : Sextet}
    (present : values[index]? = some value) :
    (List.range 6).map (fun offset => (sextetBits values).getD (6 * index + offset) false) =
      bits 6 value.val := by
  induction values generalizing index with
  | nil => cases present
  | cons first rest inductionHypothesis =>
    cases index with
    | zero =>
      cases present
      rfl
    | succ index =>
      rw [← inductionHypothesis present]
      refine List.map_congr_left fun offset _ => ?_
      have behind : 6 * (index + 1) + offset = (bits 6 first.val).length + (6 * index + offset) := by
        rw [length_bits]
        omega
      rw [sextetBits_cons, behind, List.getD_append_right _ _ _ _ (Nat.le_add_right _ _),
        Nat.add_sub_cancel_left]

/-! ## The values that are written -/

theorem bits_lowSextet (number : Nat) : bits 6 (lowSextet number).val = bits 6 number :=
  bits_mod (Nat.le_refl 6) number

/-- A symbol with the bits above those that are shown already. -/
theorem sextetBits_lowSextet_cons {width number : Nat} {shown : List Sextet}
    (below : sextetBits shown = bits width number) :
    sextetBits (lowSextet (number / 2 ^ width) :: shown) = bits (6 + width) number := by
  rw [sextetBits_cons, bits_lowSextet, below, ← bits_add]

theorem sextetBits_two (number : Nat) :
    sextetBits [lowSextet (number / 64), lowSextet number] = bits 12 number := by
  have last : sextetBits [lowSextet number] = bits 6 number :=
    (List.append_nil _).trans (bits_lowSextet number)
  have place : number / 64 = number / 2 ^ 6 := by norm_num
  rw [place]
  exact sextetBits_lowSextet_cons last

theorem sextetBits_three (number : Nat) :
    sextetBits [lowSextet (number / 4096), lowSextet (number / 64), lowSextet number] = bits 18 number := by
  have place : number / 4096 = number / 2 ^ 12 := by norm_num
  rw [place]
  exact sextetBits_lowSextet_cons (sextetBits_two number)

theorem sextetBits_four (number : Nat) :
    sextetBits [lowSextet (number / 262144), lowSextet (number / 4096), lowSextet (number / 64),
      lowSextet number] = bits 24 number := by
  have place : number / 262144 = number / 2 ^ 18 := by norm_num
  rw [place]
  exact sextetBits_lowSextet_cons (sextetBits_three number)

theorem bits_filled (width fill number : Nat) :
    bits (width + fill) (number * 2 ^ fill) = bits width number ++ List.replicate fill false := by
  have zeros : bits fill 0 = List.replicate fill false := by
    induction fill with
    | zero => rfl
    | succ fill inductionHypothesis => rw [bits, Nat.zero_testBit, inductionHypothesis, List.replicate_succ]
  have followed := bits_join width fill number (Nat.two_pow_pos fill)
  rwa [Nat.add_zero, zeros] at followed

theorem bits_two_bytes (first second : UInt8) :
    bits 16 (first.toNat * 256 + second.toNat) = bits 8 first.toNat ++ bits 8 second.toNat :=
  bits_join 8 8 first.toNat second.toNat_lt

theorem bits_three_bytes (first second third : UInt8) :
    bits 24 ((first.toNat * 256 + second.toNat) * 256 + third.toNat) =
      bits 8 first.toNat ++ (bits 8 second.toNat ++ bits 8 third.toNat) := by
  rw [← List.append_assoc, ← bits_two_bytes]
  exact bits_join 16 8 (first.toNat * 256 + second.toNat) third.toNat_lt

/-- The symbols that are written hold the bits of the bytes, and fewer than six zeros after them. -/
theorem exists_written (bytes : List UInt8) :
    ∃ values fill, (encodeStandard bytes).filterMap ofStandard? = values.map keySymbol ∧ fill < 6 ∧
      sextetBits values = byteBits bytes ++ List.replicate fill false := by
  have pad : ofStandard? '=' = none := rfl
  fun_induction encodeStandard bytes with
  | case1 => exact ⟨[], 0, rfl, by decide, rfl⟩
  | case2 first number =>
    refine ⟨[lowSextet (number / 64), lowSextet number], 4, ?_, by decide, ?_⟩
    · simp only [List.filterMap_cons, List.filterMap_nil, ofStandard?_lowSymbol, pad]
      rfl
    · rw [sextetBits_two]
      exact bits_filled 8 4 first.toNat
  | case3 first second number =>
    refine ⟨[lowSextet (number / 4096), lowSextet (number / 64), lowSextet number], 2, ?_, by decide, ?_⟩
    · simp only [List.filterMap_cons, List.filterMap_nil, ofStandard?_lowSymbol, pad]
      rfl
    · rw [sextetBits_three, byteBits_cons, byteBits_cons, ← List.append_assoc, ← bits_two_bytes]
      exact bits_filled 16 2 (first.toNat * 256 + second.toNat)
  | case4 first second third rest number inductionHypothesis =>
    rcases inductionHypothesis with ⟨values, fill, spelled, few, filled⟩
    refine ⟨[lowSextet (number / 262144), lowSextet (number / 4096), lowSextet (number / 64),
      lowSextet number] ++ values, fill, ?_, few, ?_⟩
    · simp only [List.filterMap_cons, ofStandard?_lowSymbol, spelled]
      rfl
    · rw [sextetBits, List.flatMap_append, ← sextetBits, ← sextetBits, sextetBits_four, bits_three_bytes, filled]
      simp only [byteBits_cons, List.append_assoc]

/-! ## Symbol by symbol -/

theorem alphabet_keySymbol (value : Sextet) : urlSafeAlphabet[value.val]? = some (keySymbol value) := by
  revert value
  decide

theorem keySymbol_ascii (value : Sextet) : (keySymbol value).toNat < 128 := by
  revert value
  decide

section Written

variable {bytes : List UInt8} {values : List Sextet} {fill : Nat}

/-- The zeros that are shown are those that stand after the last byte anyway. -/
theorem bitAt_eq (filled : sextetBits values = byteBits bytes ++ List.replicate fill false) (place : Nat) :
    bitAt bytes place = (sextetBits values).getD place false := by
  rw [bitAt, filled]
  by_cases inside : place < (byteBits bytes).length
  · rw [List.getD_append _ _ _ _ inside]
  · have outside : (byteBits bytes).length ≤ place := Nat.le_of_not_lt inside
    rw [List.getD_append_right _ _ _ _ outside, List.getD_eq_default _ _ outside,
      List.getD_eq_getElem?_getD]
    exact (List.getElem?_getD_replicate_default_eq false fill _).symm

theorem symbolNumber_eq (filled : sextetBits values = byteBits bytes ++ List.replicate fill false)
    {index : Nat} {value : Sextet} (present : values[index]? = some value) :
    symbolNumber bytes index = value.val := by
  have bits : (List.range 6).map (fun offset => bitAt bytes (6 * index + offset)) = bits 6 value.val := by
    rw [← bits_of_sextetBits present]
    exact List.map_congr_left fun offset _ => bitAt_eq filled _
  rw [symbolNumber, bits, ofBits_bits]
  exact Nat.mod_eq_of_lt value.isLt

theorem length_written (filled : sextetBits values = byteBits bytes ++ List.replicate fill false)
    (few : fill < 6) : values.length = symbolsFor bytes.length := by
  have length := congrArg List.length filled
  rw [length_sextetBits, List.length_append, length_byteBits, List.length_replicate] at length
  unfold symbolsFor
  omega

theorem toList_encode (spelled : (encodeStandard bytes).filterMap ofStandard? = values.map keySymbol) :
    (encode bytes).toList = values.map keySymbol := by
  rw [encode_eq, String.toList_ofList, spelled]

end Written

theorem length_encode (bytes : List UInt8) : (encode bytes).length = symbolsFor bytes.length := by
  rcases exists_written bytes with ⟨values, fill, spelled, few, filled⟩
  rw [← String.length_toList, toList_encode spelled, List.length_map, length_written filled few]

/-- Each symbol shows its own six bits. -/
theorem getElem?_encode {bytes : List UInt8} {index : Nat} (inside : index < (encode bytes).length) :
    (encode bytes).toList[index]? = urlSafeAlphabet[symbolNumber bytes index]? := by
  rcases exists_written bytes with ⟨values, fill, spelled, few, filled⟩
  rw [← String.length_toList, toList_encode spelled, List.length_map] at inside
  have present : values[index]? = some values[index] := List.getElem?_eq_getElem inside
  rw [toList_encode spelled, List.getElem?_map, present, symbolNumber_eq filled present, alphabet_keySymbol]
  rfl

theorem encode_eq_onePass (bytes : List UInt8) : encode bytes = String.ofList (onePass bytes) := by
  have same : (encode bytes).toList = onePass bytes := by
    have sized : (encode bytes).toList.length = (onePass bytes).length := by
      rw [String.length_toList, length_encode, onePass, List.length_map, List.length_range]
    refine List.ext_getElem sized fun index inside within => ?_
    have symbol := getElem?_encode inside
    have shown : (onePass bytes)[index] = (urlSafeAlphabet[symbolNumber bytes index]?).getD '=' := by
      simp only [onePass, List.getElem_map, List.getElem_range, List.getD_eq_getElem?_getD]
    rw [shown, ← symbol, List.getElem?_eq_getElem inside, Option.getD_some]
  rw [← same, String.ofList_toList]

/-! ## Padding -/

theorem utf8ByteSize_encode (bytes : List UInt8) : (encode bytes).utf8ByteSize = (encode bytes).length := by
  rcases exists_written bytes with ⟨values, fill, spelled, few, filled⟩
  have ascii : ∀ symbol ∈ values.map keySymbol, symbol.toNat < 128 := by
    intro symbol member
    rcases List.mem_map.mp member with ⟨value, _, rfl⟩
    exact keySymbol_ascii value
  rw [encode_eq, spelled, ← Utf8.length_bytes, Utf8.bytes_ofList_of_ascii ascii, List.length_map,
    String.length_ofList]

theorem missingPads_symbolsFor (length : Nat) : missingPads (symbolsFor length) = closingPads length := by
  have remainder : length % 3 = 0 ∨ length % 3 = 1 ∨ length % 3 = 2 := by omega
  rcases remainder with whole | one | two
  · simp only [symbolsFor, missingPads, closingPads, whole]
    omega
  · simp only [symbolsFor, missingPads, closingPads, one]
    omega
  · simp only [symbolsFor, missingPads, closingPads, two]
    omega

/-- Key text is the text of the bytes in one pass, wherever blocks end: it has four symbols for three bytes, rounded
up, and each symbol is the one for its own six bits.  With its `=` restored, it is the text of the bytes with as
many `=` as the last group of bytes calls for. -/
theorem encode_is_one_pass (bytes : List UInt8) :
    encode bytes = String.ofList (onePass bytes) ∧
    (encode bytes).length = symbolsFor bytes.length ∧
    (∀ index < symbolsFor bytes.length,
      (encode bytes).toList[index]? = urlSafeAlphabet[symbolNumber bytes index]?) ∧
    restorePadding (encode bytes) =
      String.ofList (onePass bytes ++ List.replicate (closingPads bytes.length) '=') := by
  refine ⟨encode_eq_onePass bytes, length_encode bytes, fun index inside => ?_, ?padded⟩
  · rw [← length_encode] at inside
    exact getElem?_encode inside
  case padded =>
    rw [restorePadding, utf8ByteSize_encode, length_encode, missingPads_symbolsFor, encode_eq_onePass,
      String.ofList_append]

/-- Sixteen bits take three symbols, the last of them with two zeros. -/
example : onePass [0xFB, 0xFF] = ['-', '_', '8'] := by decide

end Base64Url
end NodeKeys
