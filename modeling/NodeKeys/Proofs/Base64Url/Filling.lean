import NodeKeys.Base64Url

/-!
# The text that is read

A text is spelled the standard way and filled up with `=` before it is read.  The first of these steps changes no
number of bytes, so what is read are the bytes of the text in the standard spelling and as many `=` as the text itself
lacks.  That makes a whole number of groups: nothing is left over behind the last of them.
-/

namespace NodeKeys

/-! ## Text without characters beyond ASCII -/

namespace Utf8

theorem length_bytes (text : String) : (bytes text).length = text.utf8ByteSize := by
  have spelled (symbols : List Char) :
      (symbols.flatMap String.utf8EncodeChar).length = (String.ofList symbols).utf8ByteSize := by
    rw [← String.size_toByteArray, ← List.size_toByteArray]
    rfl
  rw [bytes, spelled, String.ofList_toList]

theorem utf8EncodeChar_of_ascii {symbol : Char} (ascii : symbol.toNat < 128) :
    String.utf8EncodeChar symbol = [UInt8.ofNat symbol.toNat] := by
  unfold String.utf8EncodeChar
  exact if_pos (Nat.le_of_lt_succ ascii)

/-- In a text of ASCII characters every character is one byte. -/
theorem bytes_ofList_of_ascii {symbols : List Char} (ascii : ∀ symbol ∈ symbols, symbol.toNat < 128) :
    bytes (String.ofList symbols) = symbols.map fun symbol => UInt8.ofNat symbol.toNat := by
  rw [bytes, String.toList_ofList]
  induction symbols with
  | nil => rfl
  | cons symbol rest inductionHypothesis =>
    rcases List.forall_mem_cons.mp ascii with ⟨asciiSymbol, asciiRest⟩
    rw [List.flatMap_cons, utf8EncodeChar_of_ascii asciiSymbol, inductionHypothesis asciiRest]
    rfl

theorem bytes_append (first second : String) : bytes (first ++ second) = bytes first ++ bytes second := by
  rw [bytes, String.toList_append, List.flatMap_append]
  rfl

end Utf8

namespace Base64Url

/-! ## The given text and the filled one -/

/-- The bytes that are read for a text: it is spelled the standard way and filled up with `=`. -/
def filledBytes (text : String) : List UInt8 :=
  Utf8.bytes (restorePadding (standardText text))

theorem utf8ByteSize_standardText (text : String) : (standardText text).utf8ByteSize = text.utf8ByteSize := by
  have same (symbol : Char) :
      (String.utf8EncodeChar (toStandard symbol)).length = (String.utf8EncodeChar symbol).length := by
    unfold toStandard
    split <;> rfl
  rw [← Utf8.length_bytes, ← Utf8.length_bytes, Utf8.bytes, Utf8.bytes, standardText, String.toList_ofList,
    List.length_flatMap, List.length_flatMap, List.map_map]
  exact congrArg List.sum (List.map_congr_left fun symbol _ => same symbol)

theorem bytes_pads (count : Nat) :
    Utf8.bytes (String.ofList (List.replicate count '=')) = List.replicate count padByte := by
  have ascii : ∀ symbol ∈ List.replicate count '=', symbol.toNat < 128 := by
    intro symbol member
    rw [List.eq_of_mem_replicate member]
    decide
  rw [Utf8.bytes_ofList_of_ascii ascii, List.map_replicate]
  rfl

theorem filledBytes_eq (text : String) :
    filledBytes text =
      Utf8.bytes (standardText text) ++ List.replicate (missingPads text.utf8ByteSize) padByte := by
  rw [filledBytes, restorePadding, Utf8.bytes_append, bytes_pads, utf8ByteSize_standardText]

theorem length_bytes_standardText (text : String) :
    (Utf8.bytes (standardText text)).length = text.utf8ByteSize := by
  rw [Utf8.length_bytes, utf8ByteSize_standardText]

theorem four_dvd_length_filledBytes (text : String) : 4 ∣ (filledBytes text).length := by
  rw [filledBytes_eq, List.length_append, List.length_replicate, length_bytes_standardText, missingPads]
  omega

theorem standardText_append (first second : String) :
    standardText (first ++ second) = standardText first ++ standardText second := by
  rw [standardText, String.toList_append, List.map_append, String.ofList_append]
  rfl

theorem standardText_pads (count : Nat) :
    standardText (String.ofList (List.replicate count '=')) = String.ofList (List.replicate count '=') := by
  rw [standardText, String.toList_ofList, List.map_replicate]
  rfl

/-- Padding that is there already is not added again. -/
theorem filledBytes_restorePadding (text : String) : filledBytes (restorePadding text) = filledBytes text := by
  have size : (restorePadding text).utf8ByteSize = text.utf8ByteSize + missingPads text.utf8ByteSize := by
    rw [restorePadding, ← Utf8.length_bytes, Utf8.bytes_append, bytes_pads, List.length_append, Utf8.length_bytes,
      List.length_replicate]
  have complete : missingPads (text.utf8ByteSize + missingPads text.utf8ByteSize) = 0 := by
    unfold missingPads
    omega
  rw [filledBytes_eq, size, complete, List.replicate_zero, List.append_nil, restorePadding, standardText_append,
    standardText_pads, Utf8.bytes_append, bytes_pads, filledBytes_eq]

/-! ## Whole groups -/

theorem strayByte?_of_whole {text : List UInt8} (whole : 4 ∣ text.length) : strayByte? text = none := by
  have notOne : text.length % 4 ≠ 1 := by omega
  rw [strayByte?, if_neg notOne]

/-- A text that is filled up is read group by group. -/
theorem decode_eq (text : String) : decode text = decodeGroups lenient 0 (filledBytes text) := by
  rw [decode, ← filledBytes, decodeStandard, strayByte?_of_whole (four_dvd_length_filledBytes text)]

end Base64Url
end NodeKeys
