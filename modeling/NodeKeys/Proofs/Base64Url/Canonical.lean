import NodeKeys.Proofs.Base64Url.Grammar

/-!
# One text for each sequence of bytes

Many texts are read as the same bytes: the spelling of two symbols is free, `=` may be there or not, and so may
any bits of the last symbol that belong to no byte.  `canonical` takes this freedom away.  It works on the
characters of the text and knows nothing of bytes.  What is written for the bytes of a text is its canonical
form, so texts are read alike exactly if they have the same one.
-/

namespace NodeKeys
namespace Base64Url

/-! ## The canonical form -/

def keySymbol (value : Sextet) : Char :=
  if value.val = 62 then '-' else if value.val = 63 then '_' else standardSymbol value

/-- How many low bits of the last of this many symbols belong to no byte. -/
def unusedBits (symbols : Nat) : Nat :=
  match symbols % 4 with
  | 2 => 4
  | 3 => 2
  | _ => 0

/-- Six bits of which the low ones are set to zero. -/
def clearLow (count : Nat) (value : Sextet) : Sextet :=
  ⟨value.val / 2 ^ count * 2 ^ count, Nat.lt_of_le_of_lt (Nat.div_mul_le_self _ _) value.isLt⟩

/-- A symbol of which the low bits are set to zero. -/
def clearSymbol (count : Nat) (symbol : Char) : Char :=
  match symbolValue? symbol with
  | some value => keySymbol (clearLow count value)
  | none => symbol

/-- The text in the spelling of key text, without `=`, and with the unused bits of its last symbol set to
zero. -/
def canonical (text : String) : String :=
  let symbols := text.toList.filterMap ofStandard?
  String.ofList (symbols.modify (symbols.length - 1) (clearSymbol (unusedBits symbols.length)))

/-! ## Symbols -/

theorem ofStandard?_standardSymbol (value : Sextet) :
    ofStandard? (standardSymbol value) = some (keySymbol value) := by
  revert value
  decide

theorem symbolValue?_keySymbol (value : Sextet) : symbolValue? (keySymbol value) = some value := by
  revert value
  decide

theorem ofStandard?_of_symbolValue? {symbol : Char} {value : Sextet}
    (found : symbolValue? symbol = some value) : ofStandard? symbol = some (keySymbol value) := by
  have everyAscii : ∀ code < 128, (symbolValue? (Char.ofNat code)).all fun value =>
      ofStandard? (Char.ofNat code) == some (keySymbol value) := by decide +kernel
  have known := everyAscii symbol.toNat (ascii_of_symbolValue? found)
  rw [Char.ofNat_toNat, found] at known
  exact eq_of_beq known

theorem filterMap_ofStandard?_of_values {body : List Char} {values : List Sextet}
    (spelled : body.map symbolValue? = values.map some) :
    body.filterMap ofStandard? = values.map keySymbol := by
  have respelled : body.map ofStandard? = values.map (some ∘ keySymbol) :=
    map_of_values (fun _ _ => ofStandard?_of_symbolValue?) spelled
  calc
    body.filterMap ofStandard? = (body.map ofStandard?).filterMap id := by
      rw [List.filterMap_map, Function.id_comp]
    _ = (values.map keySymbol).filterMap some := by
      rw [respelled, List.filterMap_map, List.filterMap_map]
      rfl
    _ = values.map keySymbol := List.filterMap_some

theorem clearSymbol_keySymbol (count : Nat) (value : Sextet) :
    clearSymbol count (keySymbol value) = keySymbol (clearLow count value) := by
  rw [clearSymbol, symbolValue?_keySymbol]

theorem modify_map_keySymbol (count position : Nat) (values : List Sextet) :
    (values.map keySymbol).modify position (clearSymbol count) =
      (values.modify position (clearLow count)).map keySymbol := by
  induction values generalizing position with
  | nil =>
    rw [List.map_nil, List.modify_nil, List.modify_nil, List.map_nil]
  | cons value rest inductionHypothesis =>
    cases position with
    | zero =>
      rw [List.map_cons, List.modify_zero_cons, List.modify_zero_cons, List.map_cons,
        clearSymbol_keySymbol]
    | succ position =>
      rw [List.map_cons, List.modify_succ_cons, List.modify_succ_cons, List.map_cons,
        inductionHypothesis]

/-- The values of a text's symbols, the unused bits of the last one set to zero. -/
def cleared (values : List Sextet) : List Sextet :=
  values.modify (values.length - 1) (clearLow (unusedBits values.length))

theorem canonical_of_spells {text : String} {values : List Sextet} {pads : Nat}
    (spells : Spells text values pads) : canonical text = String.ofList ((cleared values).map keySymbol) := by
  rcases spells.spelled with ⟨body, written, spelled⟩
  have dropped : (List.replicate pads '=').filterMap ofStandard? = [] := by
    apply List.filterMap_eq_nil_iff.mpr
    intro symbol member
    rw [List.eq_of_mem_replicate member]
    rfl
  have symbols : text.toList.filterMap ofStandard? = values.map keySymbol := by
    rw [written, String.toList_ofList, List.filterMap_append, dropped, List.append_nil,
      filterMap_ofStandard?_of_values spelled]
  unfold canonical cleared
  dsimp only
  rw [symbols, List.length_map, modify_map_keySymbol]

/-! ## Groups -/

/-- Bits are unused in the last group only. -/
theorem cleared_cons_group (first second third fourth : Sextet) (rest : List Sextet) :
    cleared (first :: second :: third :: fourth :: rest) =
      first :: second :: third :: fourth :: cleared rest := by
  have group : unusedBits (first :: second :: third :: fourth :: rest).length = unusedBits rest.length := by
    unfold unusedBits
    simp only [List.length_cons, Nat.add_assoc, Nat.reduceAdd, Nat.add_mod_right]
  unfold cleared
  rw [group]
  cases rest with
  | nil =>
    have whole : clearLow (unusedBits 0) fourth = fourth := by
      apply Fin.ext
      exact Nat.div_mul_cancel (Nat.one_dvd _)
    change [first, second, third, clearLow (unusedBits 0) fourth] = _
    rw [whole]
    rfl
  | cons value more => rfl

theorem ofStandard?_lowSymbol (number : Nat) :
    ofStandard? (lowSymbol number) = some (keySymbol (lowSextet number)) :=
  ofStandard?_standardSymbol (lowSextet number)

/-- What is written for the bytes of some symbols is these symbols, without the unused bits. -/
theorem encodeStandard_joined {values : List Sextet} (notOne : values.length % 4 ≠ 1) :
    (encodeStandard (joined values)).filterMap ofStandard? = (cleared values).map keySymbol := by
  have sextet {number : Nat} {value : Sextet} (same : number % 64 = value.val) :
      lowSextet number = value := Fin.ext same
  fun_induction joined values with
  | case1 => rfl
  | case2 value => exact absurd rfl notOne
  | case3 first second =>
    have byte := toNat_firstByte first second
    have isFirst : lowSextet ((firstByte first second).toNat * 16 / 64) = first := sextet (by omega)
    have kept : (clearLow 4 second).val = second.val / 16 * 16 := rfl
    have isSecond : lowSextet ((firstByte first second).toNat * 16) = clearLow 4 second := sextet (by omega)
    have pad : ofStandard? '=' = none := rfl
    simp only [encodeStandard, List.filterMap_cons, List.filterMap_nil, ofStandard?_lowSymbol, pad, isFirst,
      isSecond]
    rfl
  | case4 first second third =>
    have byte := toNat_firstByte first second
    have other := toNat_middleByte second third
    have pad : ofStandard? '=' = none := rfl
    have isFirst : lowSextet (((firstByte first second).toNat * 256 + (middleByte second third).toNat) * 4 /
        4096) = first := sextet (by omega)
    have isSecond : lowSextet (((firstByte first second).toNat * 256 + (middleByte second third).toNat) * 4 /
        64) = second := sextet (by omega)
    have kept : (clearLow 2 third).val = third.val / 4 * 4 := rfl
    have isThird : lowSextet (((firstByte first second).toNat * 256 + (middleByte second third).toNat) * 4) =
        clearLow 2 third := sextet (by omega)
    simp only [encodeStandard, List.filterMap_cons, List.filterMap_nil, ofStandard?_lowSymbol, pad, isFirst,
      isSecond, isThird]
    rfl
  | case5 first second third fourth rest inductionHypothesis =>
    have byte := toNat_firstByte first second
    have other := toNat_middleByte second third
    have last := toNat_lastByte third fourth
    have notOneRest : rest.length % 4 ≠ 1 := by
      simp only [List.length_cons] at notOne
      omega
    have number : ((firstByte first second).toNat * 256 + (middleByte second third).toNat) * 256 +
        (lastByte third fourth).toNat =
          ((first.val * 64 + second.val) * 64 + third.val) * 64 + fourth.val := by omega
    have isFirst : lowSextet ((((first.val * 64 + second.val) * 64 + third.val) * 64 + fourth.val) / 262144) =
        first := sextet (by omega)
    have isSecond : lowSextet ((((first.val * 64 + second.val) * 64 + third.val) * 64 + fourth.val) / 4096) =
        second := sextet (by omega)
    have isThird : lowSextet ((((first.val * 64 + second.val) * 64 + third.val) * 64 + fourth.val) / 64) =
        third := sextet (by omega)
    have isFourth : lowSextet (((first.val * 64 + second.val) * 64 + third.val) * 64 + fourth.val) =
        fourth := sextet (by omega)
    rw [cleared_cons_group]
    simp only [encodeStandard, List.filterMap_cons, ofStandard?_lowSymbol, number, isFirst, isSecond, isThird,
      isFourth, inductionHypothesis notOneRest, List.map_cons]

theorem encode_eq_canonical {text : String} {bytes : List UInt8} (read : decode text = .ok bytes) :
    encode bytes = canonical text := by
  rcases spells_of_decode read with ⟨values, pads, spells⟩
  rw [decode_of_spells spells] at read
  cases read
  rw [encode_eq, encodeStandard_joined spells.not_one, canonical_of_spells spells]

/-- All bytes are read back from their text, and the text of the bytes that a text was read as is its canonical
form.  So two texts are read as the same bytes if and only if their canonical forms are the same, and a text
that is read is written again as it was exactly if it is the text of some bytes. -/
theorem encode_decode_is_canonical :
    (∀ bytes, decode (encode bytes) = .ok bytes) ∧
    (∀ text bytes, decode text = .ok bytes → encode bytes = canonical text) ∧
    (∀ first second firstBytes secondBytes, decode first = .ok firstBytes → decode second = .ok secondBytes →
      (firstBytes = secondBytes ↔ canonical first = canonical second)) ∧
    ∀ text bytes, decode text = .ok bytes → (encode bytes = text ↔ ∃ written, encode written = text) := by
  refine ⟨decode_encode, fun text bytes => encode_eq_canonical, ?collapse, ?fixed⟩
  case collapse =>
    intro first second firstBytes secondBytes readFirst readSecond
    constructor
    · intro same
      rw [← encode_eq_canonical readFirst, ← encode_eq_canonical readSecond, same]
    · intro same
      rw [← encode_eq_canonical readFirst, ← encode_eq_canonical readSecond] at same
      have read := decode_encode firstBytes
      rw [same, decode_encode] at read
      exact (Except.ok.inj read).symm
  case fixed =>
    intro text bytes read
    constructor
    · intro same
      exact ⟨bytes, same⟩
    · rintro ⟨written, rfl⟩
      rw [decode_encode] at read
      cases read
      rfl

end Base64Url
end NodeKeys
