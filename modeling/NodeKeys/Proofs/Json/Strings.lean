import NodeKeys.Proofs.Json.Grammar

/-!
# Strings are passed over and read as the grammar says

Both readers stop at the first quotation mark that is not part of an escape.
-/

namespace NodeKeys
namespace Json

/-! ## Escapes -/

theorem letterEscape?_ne_u {letter meant : Char} (known : letterEscape? letter = some meant) : letter ≠ 'u' := by
  rintro rfl
  cases known

theorem escapeSize?_eq_some {input : List Char} {size : Nat} :
    escapeSize? input = some size ↔ ∃ escape rest, input = escape ++ rest ∧ IsEscape escape ∧ escape.length = size := by
  constructor
  · intro sized
    unfold escapeSize? at sized
    split at sized
    · next a b c d rest =>
      rcases Option.map_eq_some_iff.mp sized with ⟨code, digits, rfl⟩
      exact ⟨['u', a, b, c, d], rest, rfl, .code digits, rfl⟩
    · next letter rest _ =>
      rcases Option.map_eq_some_iff.mp sized with ⟨meant, known, rfl⟩
      exact ⟨[letter], rest, rfl, .letter known, rfl⟩
    · cases sized
  · rintro ⟨escape, rest, rfl, escaped, rfl⟩
    cases escaped with
    | code digits => simp [escapeSize?, digits]
    | @letter letter meant known =>
      unfold escapeSize?
      split
      · next same => exact absurd (List.cons.inj same).1 (letterEscape?_ne_u known)
      · next same =>
        rw [← (List.cons.inj same).1, known]
        rfl
      · next same => cases same

theorem hexCode?_lt {a b c d : Char} {code : Nat} (digits : hexCode? a b c d = some code) : code < 0x10000 := by
  have small {symbol : Char} {value : Nat} (digit : Hex.value? symbol = some value) : value < 16 := by
    unfold Hex.value? at digit
    grind
  unfold hexCode? at digits
  rcases Option.bind_eq_some_iff.mp digits with ⟨first, firstDigit, digits⟩
  rcases Option.bind_eq_some_iff.mp digits with ⟨second, secondDigit, digits⟩
  rcases Option.bind_eq_some_iff.mp digits with ⟨third, thirdDigit, digits⟩
  rcases Option.bind_eq_some_iff.mp digits with ⟨fourth, fourthDigit, digits⟩
  cases digits
  have firstSmall := small firstDigit
  have secondSmall := small secondDigit
  have thirdSmall := small thirdDigit
  have fourthSmall := small fourthDigit
  omega

theorem toNat_ofNat_of_valid {code : Nat} (valid : code.isValidChar) : (Char.ofNat code).toNat = code := by
  rw [Char.ofNat, dif_pos valid]
  rfl

theorem not_surrogate (meant : Char) : isLeading meant.toNat = false ∧ isTrailing meant.toNat = false := by
  unfold isLeading isTrailing
  have bounds : meant.toNat < 0xd800 ∨ 0xdfff < meant.toNat ∧ meant.toNat < 0x110000 := meant.valid
  simp only [Bool.and_eq_false_iff, decide_eq_false_iff_not]
  omega

/-- A code that stands alone is half of nothing, and two halves make the code of a character. -/
theorem means_of_readEscape {input : List Char} {meant : Char} {size : Nat}
    (read : readEscape input = some (meant, size)) :
    ∃ escape rest, input = escape ++ rest ∧ Means escape meant ∧ escape.length = size := by
  unfold readEscape at read
  split at read
  · next a b c d rest =>
    rcases Option.bind_eq_some_iff.mp read with ⟨code, digits, read⟩
    have small := hexCode?_lt digits
    split at read
    · cases read
    · next notTrailing =>
      split at read
      · next leading =>
        split at read
        · next e f g h more _ =>
          rcases Option.bind_eq_some_iff.mp read with ⟨second, others, read⟩
          split at read
          · next trailing =>
            rcases Prod.mk.inj (Option.some.inj read) with ⟨rfl, rfl⟩
            refine ⟨['u', a, b, c, d, '\\', 'u', e, f, g, h], more, rfl, .pair digits others leading trailing ?_, rfl⟩
            simp only [isLeading, isTrailing, Bool.and_eq_true, decide_eq_true_eq] at leading trailing
            rw [toNat_ofNat_of_valid (Or.inr (by omega))]
          · cases read
        · cases read
      · next notLeading =>
        cases read
        refine ⟨['u', a, b, c, d], rest, rfl, .code ?_, rfl⟩
        simp only [isLeading, isTrailing, Bool.and_eq_true, decide_eq_true_eq] at notLeading notTrailing
        rw [toNat_ofNat_of_valid (by unfold Nat.isValidChar; omega)]
        exact digits
  · next letter rest _ =>
    rcases Option.map_eq_some_iff.mp read with ⟨known, letters, same⟩
    cases same
    exact ⟨[letter], rest, rfl, .letter letters, rfl⟩
  · cases read

theorem readEscape_of_means {escape : List Char} {meant : Char} (means : Means escape meant) (rest : List Char) :
    readEscape (escape ++ rest) = some (meant, escape.length) := by
  cases means with
  | code digits =>
    have plain := not_surrogate meant
    simp [readEscape, digits, plain.1, plain.2, Char.ofNat_toNat]
  | @pair a b c d e f g h _ leading trailing first second leads trails sum =>
    have alone : isTrailing leading = false := by
      simp only [isLeading, isTrailing, Bool.and_eq_true, decide_eq_true_eq, Bool.and_eq_false_iff,
        decide_eq_false_iff_not] at leads ⊢
      omega
    have whole : Char.ofNat (0x10000 + (leading - 0xd800) * 1024 + (trailing - 0xdc00)) = meant := by
      rw [← sum, Char.ofNat_toNat]
    simp [readEscape, first, second, leads, trails, alone, whole]
  | @letter letter _ known =>
    unfold readEscape
    split
    · next same => exact absurd (List.cons.inj same).1 (letterEscape?_ne_u known)
    · next same =>
      rw [← (List.cons.inj same).1, known]
      rfl
    · next same => cases same

/-! ## Whole strings -/

/-- What was read, with a character before it. -/
def readBefore (symbol : Char) (read : List Char × List Char) : List Char × List Char :=
  (symbol :: read.1, read.2)

theorem readText_escape {text : List Char} {meant : Char} {size : Nat}
    (escape : readEscape text = some (meant, size)) :
    readText ('\\' :: text) = (readText (text.drop size)).map (readBefore meant) := by
  rw [readText, escape]
  change (readText (text.drop size) >>= _) = _
  cases readText (text.drop size) <;> rfl

theorem readText_plain {symbol : Char} (noQuote : symbol ≠ '"') (noBackslash : symbol ≠ '\\')
    (high : ¬ symbol.toNat < 32) (rest : List Char) :
    readText (symbol :: rest) = (readText rest).map (readBefore symbol) := by
  rw [readText, if_neg high]
  · cases readText rest <;> rfl
  · exact noQuote
  · exact noBackslash

theorem skipText_plain {symbol : Char} (noQuote : symbol ≠ '"') (noBackslash : symbol ≠ '\\')
    (high : ¬ symbol.toNat < 32) (rest : List Char) : skipText (symbol :: rest) = skipText rest := by
  rw [skipText, if_neg high]
  · exact noQuote
  · exact noBackslash

theorem skipText_escape {input : List Char} {size : Nat} (sized : escapeSize? input = some size) :
    skipText ('\\' :: input) = skipText (input.drop size) := by
  rw [skipText, sized]
  rfl

/-- A string is passed over up to the quotation mark that ends it. -/
theorem skipText_body {body : List Char} (written : IsBody body) (rest : List Char) :
    skipText (body ++ '"' :: rest) = some rest := by
  induction written with
  | nil => rw [List.nil_append, skipText]
  | plain noQuote noBackslash high _ inductionHypothesis =>
    rw [List.cons_append, skipText_plain noQuote noBackslash high, inductionHypothesis]
  | @escape escape body escaped _ inductionHypothesis =>
    have sized := escapeSize?_eq_some.mpr ⟨escape, body ++ '"' :: rest, rfl, escaped, rfl⟩
    rw [List.cons_append, List.append_assoc, skipText_escape sized, List.drop_left, inductionHypothesis]

theorem body_of_skipText {input rest : List Char} (passed : skipText input = some rest) :
    ∃ body, IsBody body ∧ input = body ++ '"' :: rest := by
  fun_induction skipText input with
  | case1 => cases passed
  | case2 after =>
    cases passed
    exact ⟨[], .nil, rfl⟩
  | case3 after inductionHypothesis =>
    rcases Option.bind_eq_some_iff.mp passed with ⟨size, sized, onward⟩
    rcases inductionHypothesis size onward with ⟨body, written, split⟩
    rcases escapeSize?_eq_some.mp sized with ⟨escape, more, rfl, escaped, rfl⟩
    rw [List.drop_left] at split
    exact ⟨'\\' :: (escape ++ body), .escape escaped written, by rw [split, List.cons_append, List.append_assoc]⟩
  | case4 => cases passed
  | case5 symbol after noQuote noBackslash high inductionHypothesis =>
    rcases inductionHypothesis passed with ⟨body, written, rfl⟩
    exact ⟨symbol :: body, .plain noQuote noBackslash high written, rfl⟩

/-- A string is read as the text that it spells. -/
theorem readText_spelled {body text : List Char} (spelled : Spells body text) (rest : List Char) :
    readText (body ++ '"' :: rest) = some (text, rest) := by
  induction spelled with
  | nil => rw [List.nil_append, readText]
  | plain noQuote noBackslash high _ inductionHypothesis =>
    rw [List.cons_append, readText_plain noQuote noBackslash high, inductionHypothesis]
    rfl
  | escape escaped _ inductionHypothesis =>
    rw [List.cons_append, List.append_assoc, readText_escape (readEscape_of_means escaped _), List.drop_left,
      inductionHypothesis]
    rfl

theorem spelled_of_readText {input text rest : List Char} (read : readText input = some (text, rest)) :
    ∃ body, Spells body text ∧ input = body ++ '"' :: rest := by
  fun_induction readText input generalizing text with
  | case1 => cases read
  | case2 after =>
    cases read
    exact ⟨[], .nil, rfl⟩
  | case3 after inductionHypothesis =>
    rcases Option.bind_eq_some_iff.mp read with ⟨⟨meant, size⟩, begins, onward⟩
    rcases Option.bind_eq_some_iff.mp onward with ⟨⟨more, left⟩, readMore, same⟩
    cases same
    rcases inductionHypothesis size readMore with ⟨body, spelled, split⟩
    rcases means_of_readEscape begins with ⟨escape, tail, rfl, escaped, rfl⟩
    rw [List.drop_left] at split
    exact ⟨'\\' :: (escape ++ body), .escape escaped spelled, by rw [split, List.cons_append, List.append_assoc]⟩
  | case4 => cases read
  | case5 symbol after noQuote noBackslash high inductionHypothesis =>
    rcases Option.bind_eq_some_iff.mp read with ⟨⟨more, left⟩, readMore, same⟩
    cases same
    rcases inductionHypothesis readMore with ⟨body, spelled, rfl⟩
    exact ⟨symbol :: body, .plain noQuote noBackslash high spelled, rfl⟩

/-! ## Texts as strings -/

/-- A character is written as one letter after a backslash, as its code, or as itself. -/
theorem escaped_cases (symbol : Char) :
    (∃ letter, escaped symbol = ['\\', letter] ∧ letterEscape? letter = some symbol) ∨
    (symbol.toNat < 32 ∧ escaped symbol =
      ['\\', 'u', '0', '0', Hex.digit (symbol.toNat / 16), Hex.digit (symbol.toNat % 16)]) ∨
    (escaped symbol = [symbol] ∧ symbol ≠ '"' ∧ symbol ≠ '\\' ∧ ¬ symbol.toNat < 32) := by
  unfold escaped
  split
  · exact Or.inl ⟨_, rfl, rfl⟩
  · exact Or.inl ⟨_, rfl, rfl⟩
  · exact Or.inl ⟨_, rfl, rfl⟩
  · exact Or.inl ⟨_, rfl, rfl⟩
  · exact Or.inl ⟨_, rfl, rfl⟩
  · exact Or.inl ⟨_, rfl, rfl⟩
  · exact Or.inl ⟨_, rfl, rfl⟩
  · next noQuote noBackslash _ _ _ _ _ =>
    by_cases low : symbol.toNat < 32
    · rw [if_pos low]
      exact Or.inr (Or.inl ⟨low, rfl⟩)
    · rw [if_neg low]
      exact Or.inr (Or.inr ⟨rfl, noQuote, noBackslash, low⟩)

theorem means_code {symbol : Char} (low : symbol.toNat < 32) :
    Means ['u', '0', '0', Hex.digit (symbol.toNat / 16), Hex.digit (symbol.toNat % 16)] symbol := by
  have everyCode : ∀ code < 32, hexCode? '0' '0' (Hex.digit (code / 16)) (Hex.digit (code % 16)) = some code := by
    decide
  exact .code (everyCode symbol.toNat low)

theorem spells_escaped (symbol : Char) {body text : List Char} (onward : Spells body text) :
    Spells (escaped symbol ++ body) (symbol :: text) := by
  rcases escaped_cases symbol with ⟨letter, written, known⟩ | ⟨low, written⟩ | ⟨written, noQuote, noBackslash, high⟩
  · rw [written]
    exact .escape (.letter known) onward
  · rw [written]
    exact .escape (means_code low) onward
  · rw [written]
    exact .plain noQuote noBackslash high onward

/-- What is written between the quotation marks spells the text. -/
theorem spells_flatMap_escaped (text : List Char) : Spells (text.flatMap escaped) text := by
  induction text with
  | nil => exact .nil
  | cons symbol more inductionHypothesis => exact spells_escaped symbol inductionHypothesis

end Json
end NodeKeys
