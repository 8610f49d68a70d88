import NodeKeys.Proofs.Base64Url.Filling

/-!
# Key text reads back as the bytes it was written from

The text of a sequence of bytes lacks the `=` of the standard spelling and respells two symbols.  Reading
undoes both, and what is then read in groups is the standard text of the bytes.  That the bytes were written
in blocks makes no difference, because a block that is followed by another one is a whole number of groups.
-/

namespace NodeKeys
namespace Base64Url

/-! ## Blocks -/

/-- A whole number of groups does not show where it ends. -/
theorem encodeStandard_append {first : List UInt8} (groups : 3 ∣ first.length) (second : List UInt8) :
    encodeStandard (first ++ second) = encodeStandard first ++ encodeStandard second := by
  fun_induction encodeStandard first with
  | case1 => rfl
  | case2 byte => simp only [List.length_singleton] at groups; omega
  | case3 byte other => simp only [List.length_cons, List.length_nil] at groups; omega
  | case4 byte other last rest bits inductionHypothesis =>
    simp only [List.length_cons] at groups
    simp only [List.cons_append, encodeStandard, inductionHypothesis (by omega)]
    rfl

theorem flatMap_encodeStandard_blocks {size : Nat} (groups : 3 ∣ size) (positive : 0 < size)
    (bytes : List UInt8) : (blocks size bytes).flatMap encodeStandard = encodeStandard bytes := by
  fun_induction blocks size bytes with
  | case1 bytes empty =>
    rw [List.isEmpty_iff.mp empty]
    rfl
  | case2 bytes nonempty inductionHypothesis =>
    rw [Nat.max_eq_left positive] at *
    rw [List.flatMap_cons, inductionHypothesis]
    by_cases last : bytes.length ≤ size
    · rw [List.take_of_length_le last, List.drop_of_length_le last]
      exact List.append_nil _
    · -- A block that another one follows is full.
      have whole : 3 ∣ (bytes.take size).length := by
        rw [List.length_take, Nat.min_eq_left (Nat.le_of_not_le last)]
        exact groups
      rw [← encodeStandard_append whole, List.take_append_drop]

/-- Key text is the standard text of all the bytes, respelled. -/
theorem encode_eq (bytes : List UInt8) :
    encode bytes = String.ofList ((encodeStandard bytes).filterMap ofStandard?) := by
  rw [encode, flatMap_encodeStandard_blocks (by decide) (by decide)]

/-! ## Respelling -/

theorem standardSymbol_ascii (value : Sextet) : (standardSymbol value).toNat < 128 := by
  revert value
  decide

/-- A symbol is kept by respelling it for a key text and back. -/
theorem respell_standardSymbol (value : Sextet) :
    (ofStandard? (standardSymbol value)).map toStandard = some (standardSymbol value) := by
  revert value
  decide

/-- The characters of standard text: symbols, and `=`. -/
theorem mem_encodeStandard {bytes : List UInt8} {symbol : Char} (member : symbol ∈ encodeStandard bytes) :
    symbol = '=' ∨ ∃ value, symbol = standardSymbol value := by
  have low (number : Nat) : ∃ value, lowSymbol number = standardSymbol value := ⟨_, rfl⟩
  fun_induction encodeStandard bytes with
  | case1 => cases member
  | case2 first bits =>
    simp only [List.mem_cons, List.not_mem_nil, or_false] at member
    rcases member with rfl | rfl | pad | pad
    · exact Or.inr (low _)
    · exact Or.inr (low _)
    · exact Or.inl pad
    · exact Or.inl pad
  | case3 first second bits =>
    simp only [List.mem_cons, List.not_mem_nil, or_false] at member
    rcases member with rfl | rfl | rfl | pad
    · exact Or.inr (low _)
    · exact Or.inr (low _)
    · exact Or.inr (low _)
    · exact Or.inl pad
  | case4 first second third rest bits inductionHypothesis =>
    simp only [List.mem_cons] at member
    rcases member with rfl | rfl | rfl | rfl | later
    · exact Or.inr (low _)
    · exact Or.inr (low _)
    · exact Or.inr (low _)
    · exact Or.inr (low _)
    · exact inductionHypothesis later

theorem ascii_encodeStandard {bytes : List UInt8} {symbol : Char}
    (member : symbol ∈ encodeStandard bytes) : symbol.toNat < 128 := by
  rcases mem_encodeStandard member with rfl | ⟨value, rfl⟩
  · decide
  · exact standardSymbol_ascii value

/-- Standard text after it was respelled for a key text and back: without its `=`. -/
def respelled (bytes : List UInt8) : List Char :=
  (encodeStandard bytes).filterMap fun symbol => (ofStandard? symbol).map toStandard

theorem standardText_encode (bytes : List UInt8) :
    standardText (encode bytes) = String.ofList (respelled bytes) := by
  rw [standardText, encode_eq, String.toList_ofList, List.map_filterMap, respelled]

/-- The `=` that respelling removed are those that the rest lacks to a whole number of groups. -/
theorem respelled_append_pads (bytes : List UInt8) :
    respelled bytes ++ List.replicate (missingPads (respelled bytes).length) '=' =
      encodeStandard bytes := by
  have kept (number : Nat) :
      (ofStandard? (lowSymbol number)).map toStandard = some (lowSymbol number) :=
    respell_standardSymbol _
  have removed : (ofStandard? '=').map toStandard = none := rfl
  unfold respelled
  fun_induction encodeStandard bytes with
  | case1 => rfl
  | case2 first bits =>
    simp only [List.filterMap_cons, List.filterMap_nil, kept, removed]
    rfl
  | case3 first second bits =>
    simp only [List.filterMap_cons, List.filterMap_nil, kept, removed]
    rfl
  | case4 first second third rest bits inductionHypothesis =>
    simp only [List.filterMap_cons, kept, List.length_cons, List.cons_append]
    have group (length : Nat) : missingPads (length + 1 + 1 + 1 + 1) = missingPads length := by
      unfold missingPads
      omega
    rw [group, inductionHypothesis]

theorem restorePadding_encode (bytes : List UInt8) :
    restorePadding (standardText (encode bytes)) = String.ofList (encodeStandard bytes) := by
  have ascii : ∀ symbol ∈ respelled bytes, symbol.toNat < 128 := fun symbol member =>
    ascii_encodeStandard (respelled_append_pads bytes ▸ List.mem_append_left _ member)
  have size : (String.ofList (respelled bytes)).utf8ByteSize = (respelled bytes).length := by
    rw [← Utf8.length_bytes, Utf8.bytes_ofList_of_ascii ascii, List.length_map]
  rw [restorePadding, standardText_encode, size, ← String.ofList_append, respelled_append_pads]

/-! ## Groups -/

def symbolByte (value : Sextet) : UInt8 :=
  UInt8.ofNat (standardSymbol value).toNat

theorem symbolAt_symbolByte (offset : Nat) (value : Sextet) :
    symbolAt offset (symbolByte value) = .ok value := by
  rw [symbolAt, symbolByte, sextet?_standardSymbol]

theorem symbolByte_ne_padByte (value : Sextet) : symbolByte value ≠ padByte := by
  intro same
  have impossible := sextet?_standardSymbol value
  rw [symbolByte] at same
  rw [same, sextet?_padByte] at impossible
  cases impossible

/-- A group of four symbols is read in the same way whether it is the last one or not. -/
theorem decodeGroups_symbols (reader : Reader) (offset : Nat) (first second third fourth : Sextet) (rest : List UInt8) :
    decodeGroups reader offset
        (symbolByte first :: symbolByte second :: symbolByte third :: symbolByte fourth :: rest) =
      (decodeGroups reader (offset + 4) rest).map fun bytes =>
        [firstByte first second, middleByte second third, lastByte third fourth] ++ bytes := by
  cases rest with
  | nil =>
    simp only [decodeGroups, decodeLastGroup, symbolAt_symbolByte, symbolByte_ne_padByte, if_false]
    rfl
  | cons next rest =>
    simp only [decodeGroups, decodeGroup, symbolAt_symbolByte]
    rfl

theorem decodeGroups_two_symbols (offset : Nat) (first second : Sextet) :
    decodeGroups lenient offset [symbolByte first, symbolByte second, padByte, padByte] =
      .ok [firstByte first second] := by
  simp only [decodeGroups, decodeLastGroup, symbolAt_symbolByte, if_true]
  rfl

theorem decodeGroups_three_symbols (offset : Nat) (first second third : Sextet) :
    decodeGroups lenient offset [symbolByte first, symbolByte second, symbolByte third, padByte] =
      .ok [firstByte first second, middleByte second third] := by
  simp only [decodeGroups, decodeLastGroup, symbolAt_symbolByte, symbolByte_ne_padByte, if_true, if_false]
  rfl

/-! ## Bits -/

theorem lowBits_lt (bits : Nat) : bits % 64 < 64 :=
  Nat.mod_lt bits (Nat.zero_lt_succ 63)

def lowSextet (bits : Nat) : Sextet :=
  ⟨bits % 64, lowBits_lt bits⟩

/-- Two consecutive groups of six bits of a number hold, at each of the three positions where a byte may
stand in them, the eight bits that the number has there. -/
theorem firstByte_lowSextet (bits : Nat) :
    firstByte (lowSextet (bits / 64)) (lowSextet bits) = UInt8.ofNat (bits / 16) := by
  refine UInt8.toNat_inj.mp ?_
  simp only [firstByte, lowSextet, UInt8.toNat_ofNat']
  omega

theorem middleByte_lowSextet (bits : Nat) :
    middleByte (lowSextet (bits / 64)) (lowSextet bits) = UInt8.ofNat (bits / 4) := by
  refine UInt8.toNat_inj.mp ?_
  simp only [middleByte, lowSextet, UInt8.toNat_ofNat']
  omega

theorem lastByte_lowSextet (bits : Nat) :
    lastByte (lowSextet (bits / 64)) (lowSextet bits) = UInt8.ofNat bits := by
  refine UInt8.toNat_inj.mp ?_
  simp only [lastByte, lowSextet, UInt8.toNat_ofNat']
  omega

/-- Standard text reads back as the bytes it was written from. -/
theorem decodeGroups_encodeStandard (offset : Nat) (bytes : List UInt8) :
    decodeGroups lenient offset ((encodeStandard bytes).map fun symbol => UInt8.ofNat symbol.toNat) =
      .ok bytes := by
  have low (number : Nat) : UInt8.ofNat (lowSymbol number).toNat = symbolByte (lowSextet number) := rfl
  have pad : UInt8.ofNat ('=').toNat = padByte := rfl
  have byteAt {number : Nat} {byte : UInt8} (same : number % 256 = byte.toNat) :
      UInt8.ofNat number = byte := by
    refine UInt8.toNat_inj.mp ?_
    rw [UInt8.toNat_ofNat', ← same]
  fun_induction encodeStandard bytes generalizing offset with
  | case1 => rfl
  | case2 first bits =>
    have isFirst : bits / 16 % 256 = first.toNat := by have := first.toNat_lt; omega
    simp only [List.map_cons, List.map_nil, low, pad, decodeGroups_two_symbols, firstByte_lowSextet,
      byteAt isFirst]
  | case3 first second bits =>
    have isFirst : bits / 64 / 16 % 256 = first.toNat := by
      have := first.toNat_lt; have := second.toNat_lt; omega
    have isSecond : bits / 4 % 256 = second.toNat := by have := second.toNat_lt; omega
    have regroup : bits / 4096 = bits / 64 / 64 := by omega
    simp only [List.map_cons, List.map_nil, low, pad, decodeGroups_three_symbols, regroup,
      firstByte_lowSextet, middleByte_lowSextet, byteAt isFirst, byteAt isSecond]
  | case4 first second third rest bits inductionHypothesis =>
    have isFirst : bits / 64 / 64 / 16 % 256 = first.toNat := by
      have := first.toNat_lt; have := second.toNat_lt; have := third.toNat_lt; omega
    have isSecond : bits / 64 / 4 % 256 = second.toNat := by
      have := second.toNat_lt; have := third.toNat_lt; omega
    have isThird : bits % 256 = third.toNat := by have := third.toNat_lt; omega
    have regroup : bits / 4096 = bits / 64 / 64 := by omega
    have regroupTwice : bits / 262144 = bits / 64 / 64 / 64 := by omega
    simp only [List.map_cons, low, decodeGroups_symbols, inductionHypothesis, regroup, regroupTwice,
      firstByte_lowSextet, middleByte_lowSextet, lastByte_lowSextet, byteAt isFirst, byteAt isSecond,
      byteAt isThird]
    rfl

/-- Key text reads back as the bytes it was written from. -/
theorem decode_encode (bytes : List UInt8) : decode (encode bytes) = .ok bytes := by
  rw [decode_eq, filledBytes, restorePadding_encode, Utf8.bytes_ofList_of_ascii fun _ => ascii_encodeStandard,
    decodeGroups_encodeStandard]

end Base64Url
end NodeKeys
