import NodeKeys.Proofs.Base64Url.Grammar

/-!
# Where a text stops being readable

Groups in the middle of a text and the group at its end are read by different rules: an `=` is never allowed in the
former, and in the latter only if nothing but `=` follows.  A text that breaks one of these rules is reported in the
same way all the same, at its first byte that is no symbol.

The other three kinds of failure do not occur.  A symbol that is left over and an `=` that is missing take a text that
is no whole number of groups, and so does a stray byte, which would be reported ahead of others; a text is filled up
before it is read.  And the bits of a last symbol are no fault to the lenient reader.

The bytes that are read are those of the text in the standard spelling, with the missing `=`.  So the byte that is
reported stands in the given text, or it is the first `=` that was added.
-/

namespace NodeKeys
namespace Base64Url

/-! ## Bytes that are no symbols -/

/-- The bytes of the symbols of standard text, in the order of their values. -/
def standardAlphabet : List UInt8 :=
  Utf8.bytes "ABCDEFGHIJKLMNOPQRSTUVWXYZabcdefghijklmnopqrstuvwxyz0123456789+/"

/-- The byte at this place is the first one that is no symbol of standard text. -/
structure FirstStranger (text : List UInt8) (offset : Nat) (byte : UInt8) : Prop where
  found : text[offset]? = some byte
  stranger : byte ∉ standardAlphabet
  leading : ∀ place < offset, ∀ other, text[place]? = some other → other ∈ standardAlphabet

theorem standardAlphabet_eq : standardAlphabet = (List.finRange 64).map symbolByte := by
  decide +kernel

theorem symbolByte_mem (value : Sextet) : symbolByte value ∈ standardAlphabet := by
  rw [standardAlphabet_eq]
  exact List.mem_map_of_mem (List.mem_finRange value)

/-- A byte has a value exactly if it is a symbol. -/
theorem sextet?_eq_none_iff (byte : UInt8) : sextet? byte = none ↔ byte ∉ standardAlphabet := by
  constructor
  · intro unread member
    rw [standardAlphabet_eq] at member
    rcases List.mem_map.mp member with ⟨value, _, rfl⟩
    rw [symbolByte, sextet?_standardSymbol] at unread
    cases unread
  · intro stranger
    cases found : sextet? byte with
    | none => rfl
    | some value => exact absurd (eq_symbolByte found ▸ symbolByte_mem value) stranger

theorem padByte_stranger : padByte ∉ standardAlphabet :=
  (sextet?_eq_none_iff padByte).mp sextet?_padByte

namespace FirstStranger

variable {first byte : UInt8} {rest : List UInt8} {offset : Nat}

theorem head (stranger : byte ∉ standardAlphabet) : FirstStranger (byte :: rest) 0 byte :=
  ⟨rfl, stranger, fun _ impossible => absurd impossible (Nat.not_lt_zero _)⟩

theorem cons (symbol : first ∈ standardAlphabet) (later : FirstStranger rest offset byte) :
    FirstStranger (first :: rest) (offset + 1) byte := by
  refine ⟨later.found, later.stranger, fun place before other present => ?_⟩
  cases place with
  | zero =>
    cases present
    exact symbol
  | succ place => exact later.leading place (Nat.lt_of_succ_lt_succ before) other present

/-- If only `=` follow the front part of a text, a stranger is in the front part or it is the first of them. -/
theorem le_length_of_pads {front : List UInt8} {pads : Nat}
    (first : FirstStranger (front ++ List.replicate pads padByte) offset byte) :
    offset ≤ front.length ∧ (offset = front.length → byte = padByte ∧ 0 < pads) := by
  have inside := (List.getElem?_eq_some_iff.mp first.found).1
  rw [List.length_append, List.length_replicate] at inside
  constructor
  · apply Nat.le_of_not_lt
    intro behind
    have pad : (front ++ List.replicate pads padByte)[front.length]? = some padByte := by
      rw [List.getElem?_append_right (Nat.le_refl _), Nat.sub_self, List.getElem?_replicate, if_pos (by omega)]
    exact padByte_stranger (first.leading _ behind _ pad)
  · rintro rfl
    have some := first.found
    rw [List.getElem?_append_right (Nat.le_refl _)] at some
    exact ⟨List.eq_of_mem_replicate (List.mem_of_getElem? some), by omega⟩

end FirstStranger

/-! ## Groups -/

/-- The error names the first stranger of a text that begins at `start`. -/
def Reports (start : Nat) (text : List UInt8) (error : TextError) : Prop :=
  ∃ offset byte, FirstStranger text offset byte ∧ error = .invalidSymbol (start + offset) byte

section Groups

variable {α : Type} {start : Nat} {first a b c d : UInt8} {rest text : List UInt8} {error : TextError}

theorem Reports.head (stranger : first ∉ standardAlphabet) :
    Reports start (first :: rest) (.invalidSymbol start first) :=
  ⟨0, first, .head stranger, rfl⟩

theorem Reports.cons (symbol : first ∈ standardAlphabet) (later : Reports (start + 1) rest error) :
    Reports start (first :: rest) error := by
  rcases later with ⟨offset, byte, found, rfl⟩
  refine ⟨offset + 1, byte, found.cons symbol, ?_⟩
  rw [Nat.add_assoc, Nat.add_comm 1]

/-- If reading from a byte on fails, that byte is reported, or it is a symbol and what follows it is not readable. -/
theorem reports_of_symbolAt {next : Sextet → Except TextError α}
    (failed : symbolAt start first >>= next = .error error)
    (later : ∀ value, next value = .error error → Reports (start + 1) rest error) :
    Reports start (first :: rest) error := by
  unfold symbolAt at failed
  cases found : sextet? first with
  | none =>
    rw [found] at failed
    cases failed
    exact .head ((sextet?_eq_none_iff first).mp found)
  | some value =>
    rw [found] at failed
    exact .cons (eq_symbolByte found ▸ symbolByte_mem value) (later value failed)

theorem reports_of_decodeGroup (failed : decodeGroup start a b c d = .error error) :
    Reports start (a :: b :: c :: d :: rest) error := by
  refine reports_of_symbolAt failed fun _ failed => ?_
  refine reports_of_symbolAt failed fun _ failed => ?_
  refine reports_of_symbolAt failed fun _ failed => ?_
  refine reports_of_symbolAt failed fun _ impossible => ?_
  cases impossible

/-- The lenient reader finds no fault with the bits of a last symbol. -/
theorem checkTrailing_lenient (offset : Nat) (byte : UInt8) (trailing : Nat) :
    lenient.checkTrailing offset byte trailing = .ok () :=
  if_pos (Or.inl rfl)

/-- A strict reader would object to the `h`, which has a bit that belongs to no byte. -/
example : decodeStandard {} (Utf8.bytes "Zh==") = .error (.invalidLastSymbol 1 0x68) := rfl

theorem reports_of_decodeLastGroup (failed : decodeLastGroup lenient start a b c d = .error error) :
    Reports start [a, b, c, d] error := by
  refine reports_of_symbolAt failed fun _ failed => ?_
  refine reports_of_symbolAt failed fun _ failed => ?_
  by_cases padThird : c = padByte
  · -- This `=` is no symbol either, so it is the first stranger, though what is wrong is the byte after it.
    rw [if_pos padThird] at failed
    split at failed
    · rw [checkTrailing_lenient] at failed
      cases failed
    · cases failed
      exact .head (padThird ▸ padByte_stranger)
  · rw [if_neg padThird] at failed
    refine reports_of_symbolAt failed fun _ failed => ?_
    split at failed
    · rw [checkTrailing_lenient] at failed
      cases failed
    · refine reports_of_symbolAt failed fun _ impossible => ?_
      cases impossible

/-- One, two or three bytes are no whole number of groups. -/
theorem exists_group_of_whole (whole : 4 ∣ (a :: rest).length) :
    ∃ b c d later, rest = b :: c :: d :: later := by
  rcases rest with _ | ⟨b, _ | ⟨c, _ | ⟨d, later⟩⟩⟩
  · exact absurd whole (show ¬ 4 ∣ 1 by decide)
  · exact absurd whole (show ¬ 4 ∣ 2 by decide)
  · exact absurd whole (show ¬ 4 ∣ 3 by decide)
  · exact ⟨b, c, d, later, rfl⟩

/-- Whole groups that are not readable are reported at their first stranger. -/
theorem reports_of_decodeGroups (whole : 4 ∣ text.length) (failed : decodeGroups lenient start text = .error error) :
    Reports start text error := by
  fun_induction decodeGroups lenient start text with
  | case1 start => cases failed
  | case2 start a b c d => exact reports_of_decodeLastGroup failed
  | case3 start a b c d rest more inductionHypothesis =>
    rcases bind_eq_error failed with early | ⟨group, readGroup, failed⟩
    · exact reports_of_decodeGroup early
    rcases bind_eq_error failed with late | ⟨bytes, _, failed⟩
    · rcases symbols_of_decodeGroup readGroup with ⟨first, second, third, fourth, rfl, rfl, rfl, rfl⟩
      simp only [List.length_cons] at whole
      have later := inductionHypothesis (by omega) late
      exact .cons (symbolByte_mem first) <| .cons (symbolByte_mem second) <| .cons (symbolByte_mem third) <|
        .cons (symbolByte_mem fourth) later
    · cases failed
  | case4 start a ragged notFour notMore =>
    rcases exists_group_of_whole whole with ⟨b, c, d, later, same⟩
    exact (notMore b c d later same).elim

end Groups

/-! ## What a failure says -/

/-- A text is filled up to a whole number of groups.  If it is not readable, what is reported is its first byte that is
no symbol, once it is spelled the standard way and filled up: the place of this byte and its value, and no other kind of
failure.  The place is in the given text, or just behind it if the byte is the first of the `=` that were added.  Adding
them beforehand changes neither what is read nor what is reported. -/
theorem failure_names_the_first_stranger (text : String) :
    4 ∣ (filledBytes text).length ∧
    (∀ error, decode text = .error error → ∃ offset byte,
      error = .invalidSymbol offset byte ∧ FirstStranger (filledBytes text) offset byte ∧
      offset ≤ text.utf8ByteSize ∧
      (offset = text.utf8ByteSize → byte = padByte ∧ 0 < missingPads text.utf8ByteSize)) ∧
    decode (restorePadding text) = decode text := by
  refine ⟨four_dvd_length_filledBytes text, ?failure, ?padded⟩
  case failure =>
    intro error failed
    rw [decode_eq] at failed
    rcases reports_of_decodeGroups (four_dvd_length_filledBytes text) failed with ⟨offset, byte, first, rfl⟩
    refine ⟨offset, byte, by rw [Nat.zero_add], first, ?_⟩
    rw [filledBytes_eq] at first
    have bounds := first.le_length_of_pads
    rwa [length_bytes_standardText] at bounds
  case padded => rw [decode_eq, decode_eq, filledBytes_restorePadding]

/-- The letter takes two bytes, and the first of them ends a group. -/
example : decode "Zm8é" = .error (.invalidSymbol 3 0xC3) := rfl

end Base64Url
end NodeKeys
