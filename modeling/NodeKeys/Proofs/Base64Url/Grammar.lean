import NodeKeys.Proofs.Base64Url.Bits
import NodeKeys.Proofs.Fallible

/-!
# Which texts are read, and as what

A key text is a number of symbols, in either spelling and both mixed, and then at most as many `=` as the last
group lacks.  One symbol alone in the last group is not enough for a byte.  `Spells` states this on characters,
without respelling, padding or UTF-8.

The decoder sees UTF-8 bytes of a text that was filled up with `=`.  So what it accepts is traced back in
three steps: from bytes to symbols, from bytes to characters, and from the filled text to the one that was
given.  No character beyond ASCII survives the second step, because every byte of such a character is at least
128 and no symbol is.
-/

namespace NodeKeys
namespace Base64Url

/-! ## The grammar -/

/-- The six bits of a symbol of key text, in either spelling. -/
def symbolValue? (symbol : Char) : Option Sextet :=
  let code := symbol.toNat
  if 'A'.toNat ≤ code ∧ code ≤ 'Z'.toNat then some (lowSextet (code - 'A'.toNat))
  else if 'a'.toNat ≤ code ∧ code ≤ 'z'.toNat then some (lowSextet (26 + (code - 'a'.toNat)))
  else if '0'.toNat ≤ code ∧ code ≤ '9'.toNat then some (lowSextet (52 + (code - '0'.toNat)))
  else if symbol = '+' ∨ symbol = '-' then some (lowSextet 62)
  else if symbol = '/' ∨ symbol = '_' then some (lowSextet 63)
  else none

/-- The text is made of symbols with these values and of this many `=` after them. -/
structure Spells (text : String) (values : List Sextet) (pads : Nat) : Prop where
  spelled : ∃ body : List Char, text = String.ofList (body ++ List.replicate pads '=') ∧
    body.map symbolValue? = values.map some
  not_one : values.length % 4 ≠ 1
  pads_zero : values.length % 4 = 0 → pads = 0
  pads_two : values.length % 4 = 2 → pads ≤ 2
  pads_three : values.length % 4 = 3 → pads ≤ 1

theorem Spells.pads_le {text : String} {values : List Sextet} {pads : Nat}
    (spells : Spells text values pads) : pads ≤ missingPads values.length := by
  have one := spells.not_one
  have zero := spells.pads_zero
  have two := spells.pads_two
  have three := spells.pads_three
  unfold missingPads
  omega

/-! ## From bytes to symbols -/

/-- A byte with a value is the byte of the symbol with that value. -/
theorem eq_symbolByte {byte : UInt8} {value : Sextet} (found : sextet? byte = some value) :
    byte = symbolByte value := by
  have everyByte : ∀ code < 256,
      (sextet? (UInt8.ofNat code)).all fun value => UInt8.ofNat code == symbolByte value := by decide +kernel
  have known := everyByte byte.toNat byte.toNat_lt
  rw [UInt8.ofNat_toNat, found] at known
  exact eq_of_beq known

theorem eq_symbolByte_of_symbolAt {offset : Nat} {byte : UInt8} {value : Sextet}
    (read : symbolAt offset byte = .ok value) : byte = symbolByte value := by
  unfold symbolAt at read
  cases found : sextet? byte with
  | none =>
    rw [found] at read
    cases read
  | some other =>
    rw [found] at read
    cases read
    exact eq_symbolByte found

/-- Standard text of symbols: the symbols and the `=` that they lack. -/
def standardBytes (values : List Sextet) : List UInt8 :=
  values.map symbolByte ++ List.replicate (missingPads values.length) padByte

theorem standardBytes_cons_group (first second third fourth : Sextet) (rest : List Sextet) :
    standardBytes (first :: second :: third :: fourth :: rest) =
      symbolByte first :: symbolByte second :: symbolByte third :: symbolByte fourth ::
        standardBytes rest := by
  have group : missingPads (first :: second :: third :: fourth :: rest).length =
      missingPads rest.length := by
    unfold missingPads
    simp only [List.length_cons]
    omega
  unfold standardBytes
  rw [group]
  rfl

theorem decodeGroups_standardBytes (offset : Nat) {values : List Sextet}
    (notOne : values.length % 4 ≠ 1) : decodeGroups lenient offset (standardBytes values) = .ok (joined values) := by
  fun_induction joined values generalizing offset with
  | case1 => rfl
  | case2 value => exact absurd rfl notOne
  | case3 first second => exact decodeGroups_two_symbols offset first second
  | case4 first second third => exact decodeGroups_three_symbols offset first second third
  | case5 first second third fourth rest inductionHypothesis =>
    have notOneRest : rest.length % 4 ≠ 1 := by
      simp only [List.length_cons] at notOne
      omega
    rw [standardBytes_cons_group, decodeGroups_symbols, inductionHypothesis (offset + 4) notOneRest]
    rfl

theorem symbols_of_decodeGroup {offset : Nat} {a b c d : UInt8} {group : List UInt8}
    (read : decodeGroup offset a b c d = .ok group) :
    ∃ first second third fourth, a = symbolByte first ∧ b = symbolByte second ∧ c = symbolByte third ∧
      d = symbolByte fourth := by
  unfold decodeGroup at read
  rcases bind_eq_ok read with ⟨first, readFirst, read⟩
  rcases bind_eq_ok read with ⟨second, readSecond, read⟩
  rcases bind_eq_ok read with ⟨third, readThird, read⟩
  rcases bind_eq_ok read with ⟨fourth, readFourth, read⟩
  exact ⟨first, second, third, fourth, eq_symbolByte_of_symbolAt readFirst,
    eq_symbolByte_of_symbolAt readSecond, eq_symbolByte_of_symbolAt readThird,
    eq_symbolByte_of_symbolAt readFourth⟩

theorem symbols_of_decodeLastGroup {reader : Reader} {offset : Nat} {a b c d : UInt8} {group : List UInt8}
    (read : decodeLastGroup reader offset a b c d = .ok group) :
    ∃ values : List Sextet, values.length % 4 ≠ 1 ∧ [a, b, c, d] = standardBytes values := by
  unfold decodeLastGroup at read
  rcases bind_eq_ok read with ⟨first, readFirst, read⟩
  rcases bind_eq_ok read with ⟨second, readSecond, read⟩
  rw [eq_symbolByte_of_symbolAt readFirst, eq_symbolByte_of_symbolAt readSecond]
  by_cases padThird : c = padByte
  · rw [if_pos padThird] at read
    by_cases padFourth : d = padByte
    · rw [padThird, padFourth]
      refine ⟨[first, second], ?_, rfl⟩
      simp only [List.length_cons, List.length_nil]
      decide
    · rw [if_neg padFourth] at read
      cases read
  · rw [if_neg padThird] at read
    rcases bind_eq_ok read with ⟨third, readThird, read⟩
    rw [eq_symbolByte_of_symbolAt readThird]
    by_cases padFourth : d = padByte
    · rw [padFourth]
      refine ⟨[first, second, third], ?_, rfl⟩
      simp only [List.length_cons, List.length_nil]
      decide
    · rw [if_neg padFourth] at read
      rcases bind_eq_ok read with ⟨fourth, readFourth, read⟩
      rw [eq_symbolByte_of_symbolAt readFourth]
      refine ⟨[first, second, third, fourth], ?_, (standardBytes_cons_group first second third fourth []).symm⟩
      simp only [List.length_cons, List.length_nil]
      decide

/-- What is left over behind the last group is not enough. -/
theorem decodeRagged_ne_ok (offset : Nat) (a : UInt8) (rest bytes : List UInt8) :
    decodeRagged offset a rest ≠ .ok bytes := by
  intro read
  rcases rest with _ | ⟨b, _ | ⟨c, rest⟩⟩
  · rcases bind_eq_ok read with ⟨_, _, ⟨⟩⟩
  · rcases bind_eq_ok read with ⟨_, _, read⟩
    rcases bind_eq_ok read with ⟨_, _, ⟨⟩⟩
  · rcases bind_eq_ok read with ⟨_, _, read⟩
    rcases bind_eq_ok read with ⟨_, _, read⟩
    by_cases pad : c = padByte
    · rw [if_pos pad] at read
      cases read
    · rw [if_neg pad] at read
      rcases bind_eq_ok read with ⟨_, _, ⟨⟩⟩

/-- Bytes that are read are the standard text of some symbols. -/
theorem standardBytes_of_decodeGroups {reader : Reader} {offset : Nat} {text bytes : List UInt8}
    (read : decodeGroups reader offset text = .ok bytes) :
    ∃ values : List Sextet, values.length % 4 ≠ 1 ∧ text = standardBytes values := by
  fun_induction decodeGroups reader offset text generalizing bytes with
  | case1 offset => exact ⟨[], by decide, rfl⟩
  | case2 offset a b c d => exact symbols_of_decodeLastGroup read
  | case3 offset a b c d rest more inductionHypothesis =>
    rcases bind_eq_ok read with ⟨group, readGroup, read⟩
    rcases bind_eq_ok read with ⟨later, readRest, read⟩
    rcases symbols_of_decodeGroup readGroup with ⟨first, second, third, fourth, rfl, rfl, rfl, rfl⟩
    rcases inductionHypothesis readRest with ⟨values, notOne, rfl⟩
    refine ⟨first :: second :: third :: fourth :: values, ?_, (standardBytes_cons_group ..).symm⟩
    simp only [List.length_cons]
    omega
  | case4 offset a ragged => exact absurd read (decodeRagged_ne_ok offset a ragged bytes)

end Base64Url

/-! ## From bytes to characters -/

namespace Utf8

/-- A character beyond ASCII begins with a byte that no ASCII character has. -/
theorem exists_high_byte {symbol : Char} (beyond : 128 ≤ symbol.toNat) :
    ∃ byte ∈ String.utf8EncodeChar symbol, 128 ≤ byte.toNat := by
  have code : symbol.val.toNat = symbol.toNat := rfl
  unfold String.utf8EncodeChar
  dsimp only
  rw [if_neg (by omega)]
  split
  · refine ⟨_, List.mem_cons_self, ?_⟩
    rw [UInt8.toNat_ofNat']
    omega
  · split
    · refine ⟨_, List.mem_cons_self, ?_⟩
      rw [UInt8.toNat_ofNat']
      omega
    · refine ⟨_, List.mem_cons_self, ?_⟩
      rw [UInt8.toNat_ofNat']
      omega

theorem ascii_of_bytes {text : String} (low : ∀ byte ∈ bytes text, byte.toNat < 128) :
    ∀ symbol ∈ text.toList, symbol.toNat < 128 := by
  intro symbol member
  apply Nat.lt_of_not_le
  intro beyond
  rcases exists_high_byte beyond with ⟨byte, inside, high⟩
  have present : byte ∈ bytes text := List.mem_flatMap.mpr ⟨symbol, member, inside⟩
  exact Nat.not_lt_of_le high (low byte present)

theorem ofNat_toNat_of_ascii {symbol : Char} (ascii : symbol.toNat < 128) :
    Char.ofNat (UInt8.ofNat symbol.toNat).toNat = symbol := by
  have small : symbol.toNat % 2 ^ 8 = symbol.toNat := Nat.mod_eq_of_lt (by omega)
  rw [UInt8.toNat_ofNat', small, Char.ofNat_toNat]

/-- A text whose bytes are those of ASCII characters is made of these characters. -/
theorem toList_eq_of_bytes {text : String} {symbols : List Char}
    (ascii : ∀ symbol ∈ symbols, symbol.toNat < 128)
    (same : bytes text = symbols.map fun symbol => UInt8.ofNat symbol.toNat) : text.toList = symbols := by
  have low : ∀ byte ∈ bytes text, byte.toNat < 128 := by
    intro byte member
    rw [same] at member
    rcases List.mem_map.mp member with ⟨symbol, inside, rfl⟩
    have small := ascii symbol inside
    rw [UInt8.toNat_ofNat']
    omega
  have asciiText := ascii_of_bytes low
  have spelled := bytes_ofList_of_ascii asciiText
  rw [String.ofList_toList, same] at spelled
  -- On ASCII characters, a byte can be turned back into its character.
  have restore (letters : List Char) (asciiLetters : ∀ letter ∈ letters, letter.toNat < 128) :
      (letters.map fun letter => UInt8.ofNat letter.toNat).map (fun byte => Char.ofNat byte.toNat) =
        letters := by
    rw [List.map_map]
    refine Eq.trans (List.map_congr_left fun letter member => ?_) (List.map_id letters)
    exact ofNat_toNat_of_ascii (asciiLetters letter member)
  rw [← restore text.toList asciiText, ← spelled, restore symbols ascii]

end Utf8

namespace Base64Url

/-- The characters of standard text: the symbols and the `=` that they lack. -/
def standardSymbols (values : List Sextet) : List Char :=
  values.map standardSymbol ++ List.replicate (missingPads values.length) '='

theorem ascii_standardSymbols (values : List Sextet) :
    ∀ symbol ∈ standardSymbols values, symbol.toNat < 128 := by
  intro symbol member
  rcases List.mem_append.mp member with isSymbol | isPad
  · rcases List.mem_map.mp isSymbol with ⟨value, _, rfl⟩
    exact standardSymbol_ascii value
  · rw [List.eq_of_mem_replicate isPad]
    decide

theorem map_standardSymbols (values : List Sextet) :
    (standardSymbols values).map (fun symbol => UInt8.ofNat symbol.toNat) = standardBytes values := by
  unfold standardSymbols standardBytes
  rw [List.map_append, List.map_map, List.map_replicate]
  rfl

theorem toList_restorePadding (text : String) :
    (restorePadding (standardText text)).toList =
      text.toList.map toStandard ++
        List.replicate (missingPads (standardText text).utf8ByteSize) '=' := by
  rw [restorePadding, String.toList_append, String.toList_ofList, standardText, String.toList_ofList]

/-! ## From the filled text to the given one -/

/-- If `=` was appended to a text and the result is symbols and then `=`, so was the text. -/
theorem pads_of_append {front symbols : List Char} {more pads : Nat} (noPad : '=' ∉ symbols)
    (same : front ++ List.replicate more '=' = symbols ++ List.replicate pads '=') :
    ∃ given ≤ pads, front = symbols ++ List.replicate given '=' := by
  rcases List.append_eq_append_iff.mp same with ⟨middle, symbolsEq, tail⟩ | ⟨middle, frontEq, tail⟩
  · have parts := List.append_eq_replicate_iff.mp tail.symm
    cases middle with
    | nil => exact ⟨0, Nat.zero_le _, by rw [symbolsEq, List.append_nil, List.replicate_zero, List.append_nil]⟩
    | cons symbol rest =>
      -- A symbol that came from the appended part would be an `=`.
      have isPad : symbol = '=' := by
        apply List.eq_of_mem_replicate (n := (symbol :: rest).length)
        rw [← parts.2.1]
        exact List.mem_cons_self
      refine absurd ?_ noPad
      rw [symbolsEq, isPad]
      exact List.mem_append_right _ List.mem_cons_self
  · have parts := List.append_eq_replicate_iff.mp tail.symm
    refine ⟨middle.length, by omega, ?_⟩
    rw [← parts.2.1]
    exact frontEq

theorem symbolValue?_standardSymbol (value : Sextet) : symbolValue? (standardSymbol value) = some value := by
  revert value
  decide

theorem standardSymbol_ne_pad (value : Sextet) : standardSymbol value ≠ '=' := by
  revert value
  decide

theorem symbolValue?_toStandard (symbol : Char) : symbolValue? (toStandard symbol) = symbolValue? symbol := by
  unfold toStandard
  split
  · rfl
  · rfl
  · rfl

theorem eq_pad_of_toStandard {symbol : Char} (pad : toStandard symbol = '=') : symbol = '=' := by
  unfold toStandard at pad
  split at pad
  · exact absurd pad (by decide)
  · exact absurd pad (by decide)
  · exact pad

/-- A text that is read is in the grammar. -/
theorem spells_of_decode {text : String} {bytes : List UInt8} (read : decode text = .ok bytes) :
    ∃ values pads, Spells text values pads := by
  rw [decode_eq] at read
  rcases standardBytes_of_decodeGroups read with ⟨values, notOne, same⟩
  rw [filledBytes, ← map_standardSymbols] at same
  have filled := Utf8.toList_eq_of_bytes (ascii_standardSymbols values) same
  rw [toList_restorePadding] at filled
  have noPad : '=' ∉ values.map standardSymbol := by
    intro member
    rcases List.mem_map.mp member with ⟨value, _, isPad⟩
    exact standardSymbol_ne_pad value isPad
  rcases pads_of_append noPad filled with ⟨pads, few, respelled⟩
  rcases List.map_eq_append_iff.mp respelled with ⟨body, padding, parts, symbols, equals⟩
  have padsOnly : padding = List.replicate pads '=' := by
    have length : padding.length = pads := by
      rw [← List.length_map (f := toStandard), equals, List.length_replicate]
    apply List.eq_replicate_iff.mpr
    refine ⟨length, fun symbol member => eq_pad_of_toStandard ?_⟩
    apply List.eq_of_mem_replicate (n := pads)
    rw [← equals]
    exact List.mem_map_of_mem member
  have valued : body.map symbolValue? = values.map some := by
    have both := congrArg (List.map symbolValue?) symbols
    rw [List.map_map, List.map_map] at both
    simpa only [Function.comp_def, symbolValue?_toStandard, symbolValue?_standardSymbol] using both
  unfold missingPads at few
  refine ⟨values, pads, ⟨body, ?_, valued⟩, notOne, fun _ => by omega, fun _ => by omega, fun _ => by omega⟩
  rw [← padsOnly, ← parts, String.ofList_toList]

theorem ascii_of_symbolValue? {symbol : Char} {value : Sextet} (found : symbolValue? symbol = some value) :
    symbol.toNat < 128 := by
  have highest : 'Z'.toNat < 128 ∧ 'z'.toNat < 128 ∧ '9'.toNat < 128 := by decide
  unfold symbolValue? at found
  dsimp only at found
  split at found
  · omega
  · split at found
    · omega
    · split at found
      · omega
      · split at found
        · next plus => rcases plus with rfl | rfl <;> decide
        · split at found
          · next slash => rcases slash with rfl | rfl <;> decide
          · cases found

theorem toStandard_of_symbolValue? {symbol : Char} {value : Sextet}
    (found : symbolValue? symbol = some value) : toStandard symbol = standardSymbol value := by
  have everyAscii : ∀ code < 128, (symbolValue? (Char.ofNat code)).all fun value =>
      toStandard (Char.ofNat code) == standardSymbol value := by decide +kernel
  have known := everyAscii symbol.toNat (ascii_of_symbolValue? found)
  rw [Char.ofNat_toNat, found] at known
  exact eq_of_beq known

/-- What depends only on the values of symbols can be computed from the values. -/
theorem map_of_values {α : Type} {ofSymbol : Char → α} {ofValue : Sextet → α}
    (agree : ∀ symbol value, symbolValue? symbol = some value → ofSymbol symbol = ofValue value)
    {body : List Char} {values : List Sextet} (spelled : body.map symbolValue? = values.map some) :
    body.map ofSymbol = values.map ofValue := by
  induction body generalizing values with
  | nil =>
    cases values with
    | nil => rfl
    | cons value rest => cases spelled
  | cons symbol rest inductionHypothesis =>
    cases values with
    | nil => cases spelled
    | cons value more =>
      have parts := List.cons.inj spelled
      rw [List.map_cons, List.map_cons, agree symbol value parts.1, inductionHypothesis parts.2]

theorem length_of_values {body : List Char} {values : List Sextet}
    (spelled : body.map symbolValue? = values.map some) : body.length = values.length := by
  have length := congrArg List.length spelled
  rwa [List.length_map, List.length_map] at length

theorem exists_value_of_mem {body : List Char} {values : List Sextet}
    (spelled : body.map symbolValue? = values.map some) {symbol : Char} (member : symbol ∈ body) :
    ∃ value, symbolValue? symbol = some value := by
  have valued : symbolValue? symbol ∈ values.map some := spelled ▸ List.mem_map_of_mem member
  rcases List.mem_map.mp valued with ⟨value, _, found⟩
  exact ⟨value, found.symm⟩

/-- A text in the grammar is read. -/
theorem decode_of_spells {text : String} {values : List Sextet} {pads : Nat}
    (spells : Spells text values pads) : decode text = .ok (joined values) := by
  rcases spells.spelled with ⟨body, written, spelled⟩
  have standard : text.toList.map toStandard =
      values.map standardSymbol ++ List.replicate pads '=' := by
    have respelled := map_of_values (fun _ _ => toStandard_of_symbolValue?) spelled
    rw [written, String.toList_ofList, List.map_append, respelled, List.map_replicate]
    rfl
  have ascii : ∀ symbol ∈ text.toList.map toStandard, symbol.toNat < 128 := by
    intro symbol member
    rw [standard] at member
    rcases List.mem_append.mp member with isSymbol | isPad
    · exact ascii_standardSymbols values symbol (List.mem_append_left _ isSymbol)
    · rw [List.eq_of_mem_replicate isPad]
      decide
  have size : (standardText text).utf8ByteSize = values.length + pads := by
    rw [standardText, ← Utf8.length_bytes, Utf8.bytes_ofList_of_ascii ascii, standard]
    simp only [List.length_map, List.length_append, List.length_replicate]
  have filled : (restorePadding (standardText text)).toList = standardSymbols values := by
    have few := spells.pads_le
    have whole : pads + missingPads (values.length + pads) = missingPads values.length := by
      unfold missingPads at few ⊢
      omega
    rw [toList_restorePadding, standard, size, List.append_assoc, List.replicate_append_replicate, whole]
    rfl
  have read : Utf8.bytes (restorePadding (standardText text)) = standardBytes values := by
    rw [← map_standardSymbols, ← filled, ← Utf8.bytes_ofList_of_ascii (filled ▸ ascii_standardSymbols values),
      String.ofList_toList]
  rw [decode_eq, filledBytes, read, decodeGroups_standardBytes 0 spells.not_one]

/-- A text is read if and only if it is in the grammar.  What is read is the bits of its symbols, laid end to
end, as far as they make whole bytes, and no other bytes have these bits; the bits after the last whole byte may
be any. -/
theorem decode_reads_exactly_the_grammar (text : String) :
    ((∃ bytes, decode text = .ok bytes) ↔ ∃ values pads, Spells text values pads) ∧
    ∀ values pads, Spells text values pads →
      ∃ bytes, decode text = .ok bytes ∧ bytes.length = 6 * values.length / 8 ∧
        ∀ other, byteBits other = (sextetBits values).take (8 * bytes.length) ↔ other = bytes := by
  constructor
  · constructor
    · rintro ⟨bytes, read⟩
      exact spells_of_decode read
    · rintro ⟨values, pads, spells⟩
      exact ⟨joined values, decode_of_spells spells⟩
  · intro values pads spells
    have bits : byteBits (joined values) = (sextetBits values).take (8 * (joined values).length) := by
      rw [length_joined, byteBits_joined]
    refine ⟨joined values, decode_of_spells spells, length_joined values, fun other => ?_⟩
    constructor
    · intro same
      exact byteBits_injective (same.trans bits.symm)
    · rintro rfl
      exact bits

end Base64Url
end NodeKeys
