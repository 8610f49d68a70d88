import NodeKeys.CommandLine.Parse
import NodeKeys.Proofs.Base64Url.Characters

/-!
# Key text as a word of the command line

Key text may begin with a hyphen, and so do options.  A word that does is never taken as a value; it is looked up
among the options of its level.  A key text of thirty-two bytes is not found there.  After two hyphens comes a name
longer than that of any option, because nothing but the end of the text cuts it short.  After one hyphen comes a
letter, of which `h` alone means anything below the program itself.
-/

namespace NodeKeys

open Base64Url

/-! ## Texts of thirty-two bytes -/

namespace Base64Url

/-- A text of thirty-two bytes is forty-three symbols, and then `=` if anything. -/
theorem symbols_of_decode {text : String} {bytes : List UInt8} (read : decode text = .ok bytes)
    (sized : bytes.length = 32) :
    ∃ body pads, text.toList = body ++ List.replicate pads '=' ∧ body.length = 43 ∧ '=' ∉ body := by
  rcases spells_of_decode read with ⟨values, pads, spells⟩
  rcases spells.spelled with ⟨body, written, spelled⟩
  have length := length_of_values spelled
  rw [decode_of_spells spells] at read
  cases read
  rw [length_joined] at sized
  refine ⟨body, pads, ?_, by omega, ?_⟩
  · rw [written, String.toList_ofList]
  · intro member
    rcases exists_value_of_mem spelled member with ⟨value, impossible⟩
    cases impossible

/-- The first symbol of a text is that of the six high bits of the first byte. -/
theorem head?_encode (first : UInt8) (rest : List UInt8) :
    (encode (first :: rest)).toList.head? = some (keySymbol (lowSextet (first.toNat / 4))) := by
  -- Whatever the rest of the group is, its first symbol holds the high bits of the first byte.
  have begins (number : Nat) (more : List Char) (same : number % 64 = first.toNat / 4) :
      ((lowSymbol number :: more).filterMap ofStandard?).head? =
        some (keySymbol (lowSextet (first.toNat / 4))) := by
    have isFirst : lowSextet number = lowSextet (first.toNat / 4) := by
      apply Fin.ext
      change number % 64 = first.toNat / 4 % 64
      omega
    rw [List.filterMap_cons_some (ofStandard?_lowSymbol number), isFirst]
    rfl
  have small := first.toNat_lt
  rw [encode_eq, String.toList_ofList]
  match rest with
  | [] => exact begins _ _ (by omega)
  | [second] =>
    have smallSecond := second.toNat_lt
    exact begins _ _ (by omega)
  | second :: third :: _ =>
    have smallSecond := second.toNat_lt
    have smallThird := third.toNat_lt
    exact begins _ _ (by omega)

end Base64Url

namespace CommandLine

/-- The word begins with a hyphen. -/
def Hyphenated (word : String) : Prop :=
  word.toList.head? = some '-'

instance (word : String) : Decidable (Hyphenated word) :=
  inferInstanceAs (Decidable (_ = _))

theorem Word.ofText_of_not_hyphenated {word : String} (plainly : ¬ Hyphenated word) :
    ofText word = plain := by
  unfold ofText
  unfold Hyphenated at plainly
  split
  · next letters => exact absurd (congrArg List.head? letters) plainly
  · next letters => exact absurd (congrArg List.head? letters) plainly
  · next letters => exact absurd (congrArg List.head? letters) plainly
  · rfl

/-- The text of some bytes begins with a hyphen if and only if the first of them is one of these four. -/
theorem hyphenated_encode (first : UInt8) (rest : List UInt8) :
    Hyphenated (encode (first :: rest)) ↔ 248 ≤ first.toNat ∧ first.toNat < 252 := by
  have only : ∀ value : Sextet, keySymbol value = '-' ↔ value.val = 62 := by decide
  have small := first.toNat_lt
  have value : (lowSextet (first.toNat / 4)).val = first.toNat / 4 := Nat.mod_eq_of_lt (by omega)
  rw [Hyphenated, head?_encode, Option.some_inj, only, value]
  omega

/-! ## Options -/

/-- No option has a name as long as a key text. -/
theorem Level.switch?_eq_none (level : Level) {name : String} (long : 7 < name.length) :
    level.switch? name = none := by
  have short : ∀ entry ∈ level.switches, entry.1.length ≤ 7 := by
    cases level <;> decide
  rw [switch?, List.lookup_eq_none_iff]
  intro entry member
  have differs : name ≠ entry.1 := by
    rintro rfl
    exact Nat.not_lt_of_le (short entry member) long
  exact bne_iff_ne.mpr differs

namespace Word

theorem ofText_of_letter {word : String} {letter : Char} {rest : List Char}
    (letters : word.toList = '-' :: letter :: rest) (single : letter ≠ '-') : ofText word = short letter := by
  unfold ofText
  rw [letters]
  split
  · next both => cases both; exact absurd rfl single
  · next both => cases both; exact absurd rfl single
  · next same => cases same; rfl
  · next other => exact absurd rfl (other letter rest)

theorem ofText_of_name {word : String} {letter : Char} {rest : List Char}
    (letters : word.toList = '-' :: '-' :: letter :: rest) :
    ∃ value, ofText word = long (String.ofList ((letter :: rest).takeWhile (· ≠ '='))) value := by
  have named : ofText word = ofLong (letter :: rest) := by
    rw [ofText, letters]
    rfl
  rw [named, ofLong]
  split
  · exact ⟨none, rfl⟩
  · exact ⟨_, rfl⟩

end Word

theorem Given.take_of_name (given : Given) (level : Level) {word name : String} {value : Option String}
    (named : Word.ofText word = .long name value) (long : 7 < name.length) :
    given.take level word = .error .unknownArgument := by
  rw [take, named]
  dsimp only
  rw [level.switch?_eq_none long]

/-- Below the program itself, `h` is the only letter of an option. -/
theorem Given.take_of_letter (given : Given) {level : Level} (below : level ≠ .program) {word : String}
    {letter : Char} (single : Word.ofText word = .short letter) :
    given.take level word = if letter = 'h' then given.raise .help else .error .unknownArgument := by
  rw [take, single]
  dsimp only
  unfold Level.flag?
  by_cases help : letter = 'h'
  · rw [if_pos help, if_pos help]
  · have noVersion : ¬ (letter = 'V' && level == .program) = true := by
      cases level <;> simp_all
    rw [if_neg help, if_neg noVersion, if_neg help]

/-- A key text that begins with a hyphen is taken for an option that does not exist, or for a request for
help. -/
theorem take_hyphenated {text : String} {bytes : List UInt8} (read : decode text = .ok bytes)
    (sized : bytes.length = 32) (hyphenated : Hyphenated text) (given : Given) {level : Level}
    (below : level ≠ .program) :
    given.take level text =
      if text.toList[1]? = some 'h' then given.raise .help else .error .unknownArgument := by
  rcases symbols_of_decode read sized with ⟨body, pads, letters, length, noPad⟩
  match body, length with
  | first :: second :: third :: more, length =>
    -- The first symbol is the hyphen; the second one decides what the word is read as.
    unfold Hyphenated at hyphenated
    rw [letters] at hyphenated
    cases hyphenated
    have spelled : text.toList = '-' :: second :: third :: (more ++ List.replicate pads '=') := letters
    have isSecond : text.toList[1]? = some second := by
      rw [spelled]
      rfl
    rw [isSecond]
    by_cases double : second = '-'
    · subst double
      rcases Word.ofText_of_name spelled with ⟨value, isLong⟩
      -- A name ends at the first `=`, and no symbol is one.
      have kept : ∀ symbol ∈ third :: more, decide (symbol ≠ '=') = true := by
        intro symbol member
        apply decide_eq_true
        rintro rfl
        exact noPad (List.mem_cons_of_mem _ (List.mem_cons_of_mem _ member))
      have name : (third :: (more ++ List.replicate pads '=')).takeWhile (· ≠ '=') =
          third :: more ++ (List.replicate pads '=').takeWhile (· ≠ '=') :=
        List.takeWhile_append_of_pos kept
      rw [if_neg (by decide)]
      refine given.take_of_name level isLong ?_
      rw [name, String.length_ofList, List.length_append]
      simp only [List.length_cons] at length ⊢
      omega
    · rw [given.take_of_letter below (Word.ofText_of_letter spelled double)]
      simp only [Option.some.injEq]

end CommandLine
end NodeKeys
