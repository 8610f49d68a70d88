import NodeKeys.Proofs.Json.Grammar

/-!
# Numbers are passed over as the grammar says

A number ends where its grammar cannot go on.  In front of white space, a comma, a closing bracket or the end of the
text that is its whole length.
-/

namespace NodeKeys
namespace Json

/-- No number goes on into this text. -/
def Ends (rest : List Char) : Prop :=
  ∀ symbol ∈ rest.head?, symbol.isDigit = false ∧ symbol ≠ '.' ∧ symbol ≠ 'e' ∧ symbol ≠ 'E'

theorem Ends.digit {rest : List Char} (ends : Ends rest) : ∀ symbol ∈ rest.head?, symbol.isDigit = false :=
  fun symbol first => (ends symbol first).1

namespace Number

/-! ## Digits -/

/-- Split off at least one digit. -/
def spanSome? (input : List Char) : Option (List Char × List Char) :=
  match spanDigits input with
  | ([], _) => none
  | (digits, after) => some (digits, after)

theorem spanDigits_append {digits rest : List Char} (all : digits.all Char.isDigit = true)
    (stops : ∀ symbol ∈ rest.head?, symbol.isDigit = false) : spanDigits (digits ++ rest) = (digits, rest) := by
  have every := List.all_eq_true.mp all
  unfold spanDigits
  rw [List.takeWhile_append_of_pos every, List.dropWhile_append_of_pos every]
  cases rest with
  | nil => rw [List.takeWhile_nil, List.append_nil, List.dropWhile_nil]
  | cons symbol more =>
    have other : ¬ symbol.isDigit = true := Bool.eq_false_iff.mp (stops symbol rfl)
    rw [List.takeWhile_cons_of_neg other, List.append_nil, List.dropWhile_cons_of_neg other]

theorem spanDigits_eq {input digits rest : List Char} (split : spanDigits input = (digits, rest)) :
    digits.all Char.isDigit = true ∧ input = digits ++ rest := by
  rcases Prod.mk.inj split with ⟨rfl, rfl⟩
  exact ⟨List.all_takeWhile, List.takeWhile_append_dropWhile.symm⟩

theorem spanSome?_append {digits rest : List Char} (nonempty : IsDigits digits)
    (stops : ∀ symbol ∈ rest.head?, symbol.isDigit = false) : spanSome? (digits ++ rest) = some (digits, rest) := by
  rw [spanSome?, spanDigits_append nonempty.2 stops]
  cases digits with
  | nil => exact absurd rfl nonempty.1
  | cons => rfl

theorem digits_of_spanSome? {input digits rest : List Char} (read : spanSome? input = some (digits, rest)) :
    IsDigits digits ∧ input = digits ++ rest := by
  unfold spanSome? at read
  split at read
  · cases read
  · next nonempty split =>
    cases read
    rcases spanDigits_eq split with ⟨all, same⟩
    exact ⟨⟨nonempty, all⟩, same⟩

theorem isDigit_of_append {digits rest more : List Char} {symbol : Char} (nonempty : IsDigits digits)
    (begins : digits ++ rest = symbol :: more) : symbol.isDigit = true := by
  cases digits with
  | nil => exact absurd rfl nonempty.1
  | cons first others =>
    rw [← (List.cons.inj begins).1]
    exact List.all_eq_true.mp nonempty.2 first List.mem_cons_self

/-! ## Fractions -/

/-- Read the fraction, if there is one; none if it has no digits. -/
def spanFraction? : List Char → Option (Option (List Char) × List Char)
  | '.' :: rest => (spanSome? rest).map fun split => (some split.1, split.2)
  | input => some (none, input)

theorem spanFraction?_absent {input : List Char} (noPoint : ∀ rest, input ≠ '.' :: rest) :
    spanFraction? input = some (none, input) := by
  unfold spanFraction?
  split
  · exact absurd rfl (noPoint _)
  · rfl

theorem spanFraction?_append {fraction rest : List Char} (written : IsFraction fraction)
    (stops : ∀ symbol ∈ rest.head?, symbol.isDigit = false ∧ symbol ≠ '.') :
    ∃ digits, spanFraction? (fraction ++ rest) = some (digits, rest) := by
  cases written with
  | absent =>
    refine ⟨none, spanFraction?_absent fun more same => ?_⟩
    rw [List.nil_append] at same
    exact absurd rfl (stops '.' (by rw [same]; rfl)).2
  | @present digits nonempty =>
    refine ⟨some digits, ?_⟩
    rw [List.cons_append, spanFraction?, spanSome?_append nonempty fun symbol first => (stops symbol first).1]
    rfl

theorem fraction_of_spanFraction? {input rest : List Char} {digits : Option (List Char)}
    (read : spanFraction? input = some (digits, rest)) :
    ∃ fraction, IsFraction fraction ∧ input = fraction ++ rest := by
  unfold spanFraction? at read
  split at read
  · next after =>
    rcases Option.map_eq_some_iff.mp read with ⟨⟨found, more⟩, some, same⟩
    cases same
    rcases digits_of_spanSome? some with ⟨nonempty, rfl⟩
    exact ⟨'.' :: found, .present nonempty, rfl⟩
  · cases read
    exact ⟨[], .absent, rfl⟩

/-! ## Exponents -/

/-- The exponent of these digits, with its sign. -/
def spanPower? (negative : Bool) (input : List Char) : Option (Option (Bool × List Char) × List Char) :=
  (spanSome? input).map fun split => (some (negative, split.1), split.2)

theorem spanPower?_eq (negative : Bool) (input : List Char) :
    spanPower? negative input =
      match spanDigits input with
      | ([], _) => none
      | (digits, after) => some (some (negative, digits), after) := by
  unfold spanPower? spanSome?
  split <;> rfl

/-- After its mark, an exponent has a sign or it has none. -/
theorem spanExponent?_mark {mark : Char} (marked : mark = 'e' ∨ mark = 'E') (input : List Char) :
    (∃ more, input = '-' :: more ∧ spanExponent? (mark :: input) = spanPower? true more) ∨
      (∃ more, input = '+' :: more ∧ spanExponent? (mark :: input) = spanPower? false more) ∨
      ((∀ more, input ≠ '-' :: more ∧ input ≠ '+' :: more) ∧
        spanExponent? (mark :: input) = spanPower? false input) := by
  simp only [spanPower?_eq]
  rcases marked with rfl | rfl <;>
  · simp only [spanExponent?]
    split
    · next more => exact Or.inl ⟨more, rfl, rfl⟩
    · next more => exact Or.inr (Or.inl ⟨more, rfl, rfl⟩)
    · next noMinus noPlus => exact Or.inr (Or.inr ⟨fun more => ⟨noMinus more, noPlus more⟩, rfl⟩)

theorem spanExponent?_append {exponent rest : List Char} (written : IsExponent exponent) (ends : Ends rest) :
    ∃ parts, spanExponent? (exponent ++ rest) = some (parts, rest) := by
  cases written with
  | absent =>
    refine ⟨none, ?_⟩
    rw [List.nil_append]
    unfold spanExponent?
    dsimp only
    split
    · exact absurd rfl (ends 'e' rfl).2.2.1
    · exact absurd rfl (ends 'E' rfl).2.2.2
    · rfl
  | @present mark sign digits marked signed nonempty =>
    have read (negative : Bool) : spanPower? negative (digits ++ rest) = some (some (negative, digits), rest) := by
      rw [spanPower?, spanSome?_append nonempty ends.digit]
      rfl
    rw [List.cons_append, List.append_assoc]
    rcases spanExponent?_mark marked (sign ++ (digits ++ rest)) with
      ⟨more, minus, spans⟩ | ⟨more, plus, spans⟩ | ⟨unsigned, spans⟩
    · refine ⟨some (true, digits), ?_⟩
      rcases signed with rfl | rfl | rfl
      · exact absurd (isDigit_of_append nonempty minus) (by decide)
      · exact absurd (List.cons.inj minus).1 (by decide)
      · rw [spans, ← (List.cons.inj minus).2]
        exact read true
    · refine ⟨some (false, digits), ?_⟩
      rcases signed with rfl | rfl | rfl
      · exact absurd (isDigit_of_append nonempty plus) (by decide)
      · rw [spans, ← (List.cons.inj plus).2]
        exact read false
      · exact absurd (List.cons.inj plus).1 (by decide)
    · refine ⟨some (false, digits), ?_⟩
      rcases signed with rfl | rfl | rfl
      · exact spans.trans (read false)
      · exact absurd rfl (unsigned _).2
      · exact absurd rfl (unsigned _).1

theorem digits_of_spanPower? {negative : Bool} {input rest : List Char} {parts : Option (Bool × List Char)}
    (read : spanPower? negative input = some (parts, rest)) : ∃ digits, IsDigits digits ∧ input = digits ++ rest := by
  rcases Option.map_eq_some_iff.mp read with ⟨⟨digits, after⟩, some, same⟩
  cases same
  exact ⟨digits, digits_of_spanSome? some⟩

theorem exponent_of_spanExponent? {input rest : List Char} {parts : Option (Bool × List Char)}
    (read : spanExponent? input = some (parts, rest)) :
    ∃ exponent, IsExponent exponent ∧ input = exponent ++ rest := by
  by_cases marked : ∃ mark more, input = mark :: more ∧ (mark = 'e' ∨ mark = 'E')
  · rcases marked with ⟨mark, more, rfl, marked⟩
    rcases spanExponent?_mark marked more with ⟨power, rfl, spans⟩ | ⟨power, rfl, spans⟩ | ⟨_, spans⟩
    · rcases digits_of_spanPower? (spans.symm.trans read) with ⟨digits, nonempty, rfl⟩
      exact ⟨_, .present marked (Or.inr (Or.inr rfl)) nonempty, rfl⟩
    · rcases digits_of_spanPower? (spans.symm.trans read) with ⟨digits, nonempty, rfl⟩
      exact ⟨_, .present marked (Or.inr (Or.inl rfl)) nonempty, rfl⟩
    · rcases digits_of_spanPower? (spans.symm.trans read) with ⟨digits, nonempty, rfl⟩
      exact ⟨_, .present marked (Or.inl rfl) nonempty, rfl⟩
  · unfold spanExponent? at read
    dsimp only at read
    split at read
    · exact absurd ⟨_, _, rfl, Or.inl rfl⟩ marked
    · exact absurd ⟨_, _, rfl, Or.inr rfl⟩ marked
    · cases read
      exact ⟨[], .absent, rfl⟩

/-! ## Whole numbers -/

/-- Split off the digits in front of the point; none if there are none, or a zero and more. -/
def spanWhole? (input : List Char) : Option (List Char × List Char) :=
  match spanDigits input with
  | ([], _) => none
  | ('0' :: _ :: _, _) => none
  | split => some split

/-- Read a number after its sign. -/
def spanUnsigned? (negative : Bool) (input : List Char) : Option (Written × List Char) := do
  let (whole, afterWhole) ← spanWhole? input
  let (fraction, afterFraction) ← spanFraction? afterWhole
  let (exponent, rest) ← spanExponent? afterFraction
  return (⟨negative, whole, fraction, exponent⟩, rest)

theorem spanWhole?_of_split {input whole rest : List Char} (split : spanDigits input = (whole, rest))
    (nonempty : whole ≠ []) (noZero : ∀ more, whole = '0' :: more → more = []) :
    spanWhole? input = some (whole, rest) := by
  unfold spanWhole?
  rw [split]
  split
  · next same => exact absurd (Prod.mk.inj same).1 nonempty
  · next same => cases noZero _ (Prod.mk.inj same).1
  · rfl

theorem spanWhole?_append {whole rest : List Char} (nonempty : IsDigits whole)
    (noZero : ∀ more, whole = '0' :: more → more = []) (stops : ∀ symbol ∈ rest.head?, symbol.isDigit = false) :
    spanWhole? (whole ++ rest) = some (whole, rest) :=
  spanWhole?_of_split (spanDigits_append nonempty.2 stops) nonempty.1 noZero

theorem whole_of_spanWhole? {input whole rest : List Char} (read : spanWhole? input = some (whole, rest)) :
    IsDigits whole ∧ (∀ more, whole = '0' :: more → more = []) ∧ input = whole ++ rest := by
  unfold spanWhole? at read
  split at read
  · cases read
  · cases read
  · next nonempty noZero =>
    have split := Option.some.inj read
    rcases spanDigits_eq split with ⟨all, same⟩
    refine ⟨⟨?_, all⟩, ?_, same⟩
    · rintro rfl
      exact nonempty rest split
    · rintro (_ | ⟨second, more⟩) rfl
      · rfl
      · exact (noZero second more rest split).elim

/-- Whether a minus sign stands in front, and what follows it. -/
def splitSign : List Char → Bool × List Char
  | '-' :: rest => (true, rest)
  | input => (false, input)

theorem splitSign_unsigned {input : List Char} (noMinus : ∀ rest, input ≠ '-' :: rest) :
    splitSign input = (false, input) := by
  unfold splitSign
  split
  · exact absurd rfl (noMinus _)
  · rfl

theorem sign_of_splitSign (input : List Char) :
    ∃ sign, (sign = [] ∨ sign = ['-']) ∧ input = sign ++ (splitSign input).2 := by
  unfold splitSign
  split
  · exact ⟨['-'], Or.inr rfl, rfl⟩
  · exact ⟨[], Or.inl rfl, rfl⟩

theorem span?_eq (input : List Char) :
    span? input = spanUnsigned? (splitSign input).1 (splitSign input).2 := by
  unfold span?
  split
  next negative unsigned signed =>
    have sameSign : splitSign input = (negative, unsigned) := by
      split at signed
      · exact signed
      · next noMinus => rw [splitSign_unsigned noMinus, signed]
    rw [sameSign, spanUnsigned?]
    cases digits : spanDigits unsigned with
    | mk whole afterWhole =>
      dsimp only
      split
      · rw [spanWhole?, digits]
        rfl
      · rw [spanWhole?, digits]
        rfl
      · next nonempty noZero =>
        have single : ∀ more, whole = '0' :: more → more = [] := by
          rintro (_ | ⟨second, more⟩) same
          · rfl
          · exact (noZero second more same).elim
        simp only [spanWhole?_of_split digits nonempty single, Option.bind_eq_bind, Option.bind_some]
        split
        · next rest =>
          simp only [spanFraction?, spanSome?]
          rcases spanDigits rest with ⟨_ | ⟨first, more⟩, after⟩ <;> rfl
        · next noPoint =>
          rw [spanFraction?_absent noPoint]
          rfl
/-! What follows a part cannot belong to it. -/

theorem stops_exponent {exponent rest : List Char} (written : IsExponent exponent) (ends : Ends rest) :
    ∀ symbol ∈ (exponent ++ rest).head?, symbol.isDigit = false ∧ symbol ≠ '.' := by
  intro symbol first
  cases written with
  | absent => exact ⟨(ends symbol first).1, (ends symbol first).2.1⟩
  | present marked _ _ =>
    cases first
    rcases marked with rfl | rfl <;> decide

theorem stops_fraction {fraction rest : List Char} (written : IsFraction fraction)
    (stops : ∀ symbol ∈ rest.head?, symbol.isDigit = false ∧ symbol ≠ '.') :
    ∀ symbol ∈ (fraction ++ rest).head?, symbol.isDigit = false := by
  intro symbol first
  cases written with
  | absent => exact (stops symbol first).1
  | present =>
    cases first
    decide

/-- A number is passed over as a whole. -/
theorem span?_append {number rest : List Char} (written : IsNumber number) (ends : Ends rest) :
    ∃ parts, span? (number ++ rest) = some (parts, rest) := by
  cases written with
  | @mk sign whole fraction exponent signed nonempty noZero fractional exponential =>
    have behindFraction := stops_exponent exponential ends
    have behindWhole := stops_fraction fractional behindFraction
    rcases spanExponent?_append exponential ends with ⟨power, spansExponent⟩
    rcases spanFraction?_append fractional behindFraction with ⟨decimals, spansFraction⟩
    have spans (negative : Bool) :
        spanUnsigned? negative (whole ++ (fraction ++ (exponent ++ rest))) =
          some (⟨negative, whole, decimals, power⟩, rest) := by
      simp only [spanUnsigned?, spanWhole?_append nonempty noZero behindWhole, spansFraction, spansExponent,
        Option.bind_eq_bind, Option.bind_some]
      rfl
    simp only [List.append_assoc, span?_eq]
    rcases signed with rfl | rfl
    · have noMinus : ∀ more, whole ++ (fraction ++ (exponent ++ rest)) ≠ '-' :: more := by
        intro more minus
        exact absurd (isDigit_of_append nonempty minus) (by decide)
      rw [List.nil_append, splitSign_unsigned noMinus]
      exact ⟨_, spans false⟩
    · exact ⟨_, spans true⟩

theorem number_of_span? {input rest : List Char} {parts : Written} (read : span? input = some (parts, rest)) :
    ∃ number, IsNumber number ∧ input = number ++ rest := by
  rw [span?_eq] at read
  rcases Option.bind_eq_some_iff.mp read with ⟨⟨whole, afterWhole⟩, spansWhole, read⟩
  rcases Option.bind_eq_some_iff.mp read with ⟨⟨decimals, afterFraction⟩, spansFraction, read⟩
  rcases Option.bind_eq_some_iff.mp read with ⟨⟨power, afterExponent⟩, spansExponent, same⟩
  cases same
  rcases whole_of_spanWhole? spansWhole with ⟨nonempty, noZero, unsigned⟩
  rcases fraction_of_spanFraction? spansFraction with ⟨fraction, fractional, rfl⟩
  rcases exponent_of_spanExponent? spansExponent with ⟨exponent, exponential, rfl⟩
  rcases sign_of_splitSign input with ⟨sign, signed, whole⟩
  refine ⟨sign ++ (_ ++ (fraction ++ exponent)), .mk signed nonempty noZero fractional exponential, ?_⟩
  rw [whole, unsigned]
  simp only [List.append_assoc]

end Number
end Json
end NodeKeys
