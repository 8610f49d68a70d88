import Mathlib.Data.List.Forall2
import NodeKeys.Diagnostic

/-!
# What can be told from a diagnostic

A rendering is legible if it can be told from any text that begins with it where the rendering ends, and what was
rendered, at least up to some relation.  Nothing is assumed of what follows, so legible renderings can be put one
behind the other.

Numbers with a mark behind them, quoted text, and lists of legible renderings between brackets are legible.
-/

namespace NodeKeys
namespace Diagnostic

variable {α β : Type} {render shown : α → List Char} {same : α → α → Prop}

/-- If a text begins with the rendering of this value and also with that of another one, then the two values are the
same, and so is what follows. -/
def Legible (render : α → List Char) (same : α → α → Prop) (value : α) : Prop :=
  ∀ other rest others, render value ++ rest = render other ++ others → same value other ∧ rest = others

/-! ## Renderings behind each other -/

namespace Legible

variable {value : α}

theorem congr (written : ∀ value, shown value = render value) (legible : Legible render same value) :
    Legible shown same value := by
  rwa [funext written]

theorem behind (opening : List Char) (legible : Legible render same value) :
    Legible (fun value => opening ++ render value) same value := by
  intro other rest others together
  simp only [List.append_assoc] at together
  exact legible other rest others (List.append_cancel_left together)

theorem before (closing : List Char) (legible : Legible render same value) :
    Legible (fun value => render value ++ closing) same value := by
  intro other rest others together
  simp only [List.append_assoc] at together
  rcases legible other _ _ together with ⟨alike, onward⟩
  exact ⟨alike, List.append_cancel_left onward⟩

theorem append {renderNext : β → List Char} {sameNext : β → β → Prop} {next : β}
    (legible : Legible render same value) (legibleNext : Legible renderNext sameNext next) :
    Legible (fun pair : α × β => render pair.1 ++ renderNext pair.2)
      (fun pair other => same pair.1 other.1 ∧ sameNext pair.2 other.2) (value, next) := by
  intro other rest others together
  simp only [List.append_assoc] at together
  rcases legible other.1 _ _ together with ⟨alike, onward⟩
  rcases legibleNext other.2 _ _ onward with ⟨alikeNext, onward⟩
  exact ⟨⟨alike, alikeNext⟩, onward⟩

end Legible

/-! ## Lists of renderings -/

/-- No rendering begins with this mark, and none is empty. -/
def Avoids (render : α → List Char) (mark : Char) : Prop :=
  ∀ value, ∃ first remaining, render value = first :: remaining ∧ first ≠ mark

theorem Avoids.ne {mark : Char} (avoids : Avoids render mark) (value : α) (rest others : List Char) :
    mark :: rest ≠ render value ++ others := by
  intro together
  rcases avoids value with ⟨first, remaining, written, differs⟩
  rw [written] at together
  exact differs (List.cons.inj together).1.symm

/-- Renderings one behind the other are legible up to a mark with which none of them begins. -/
theorem legible_flatMap {close : Char} (avoids : Avoids render close) {values : List α}
    (legible : ∀ value ∈ values, Legible render same value) :
    Legible (fun values => values.flatMap render ++ [close]) (List.Forall₂ same) values := by
  induction values with
  | nil =>
    intro other rest others together
    cases other with
    | nil => exact ⟨.nil, (List.cons.inj together).2⟩
    | cons value more =>
      simp only [List.flatMap_cons, List.append_assoc] at together
      exact absurd together (avoids.ne value _ _)
  | cons value more inductionHypothesis =>
    intro other rest others together
    rcases List.forall_mem_cons.mp legible with ⟨legibleHere, legibleOnward⟩
    cases other with
    | nil =>
      simp only [List.flatMap_cons, List.append_assoc] at together
      exact absurd together.symm (avoids.ne value _ _)
    | cons otherValue otherMore =>
      have pair := legibleHere.append (inductionHypothesis legibleOnward) (otherValue, otherMore) rest others
      simp only [List.flatMap_cons, List.append_assoc] at together pair
      rcases pair together with ⟨⟨alike, alikeOnward⟩, onward⟩
      exact ⟨.cons alike alikeOnward, onward⟩

/-- What is between brackets, with commas between the renderings. -/
def enclosed (close : Char) (shown : List (List Char)) : List Char :=
  [',', ' '].intercalate shown ++ [close]

theorem enclosed_cons (close : Char) (first : List Char) (more : List (List Char)) :
    enclosed close (first :: more) = first ++ (more.flatMap ([',', ' '] ++ ·) ++ [close]) := by
  unfold enclosed
  induction more generalizing first with
  | nil => simp
  | cons next more inductionHypothesis =>
    rw [List.intercalate_cons_cons, List.append_assoc, List.append_assoc, inductionHypothesis next, List.flatMap_cons,
      List.append_assoc, List.append_assoc]

theorem legible_enclosed {close : Char} (noComma : ',' ≠ close) (avoids : Avoids render close) {values : List α}
    (legible : ∀ value ∈ values, Legible render same value) :
    Legible (fun values => enclosed close (values.map render)) (List.Forall₂ same) values := by
  intro other rest others together
  cases values with
  | nil =>
    cases other with
    | nil => exact ⟨.nil, (List.cons.inj together).2⟩
    | cons value more =>
      simp only [List.map_cons, enclosed_cons, List.append_assoc] at together
      exact absurd together (avoids.ne value _ _)
  | cons value more =>
    rcases List.forall_mem_cons.mp legible with ⟨legibleHere, legibleOnward⟩
    cases other with
    | nil =>
      simp only [List.map_cons, enclosed_cons, List.append_assoc] at together
      exact absurd together.symm (avoids.ne value _ _)
    | cons otherValue otherMore =>
      -- The first rendering stands alone, and behind it each one has its comma in front.
      have continued : Legible (fun values => values.flatMap (fun next => [',', ' '] ++ render next) ++ [close])
          (List.Forall₂ same) more := by
        refine legible_flatMap ?_ fun next member => (legibleOnward next member).behind [',', ' ']
        exact fun next => ⟨',', ' ' :: render next, rfl, noComma⟩
      have pair := legibleHere.append continued (otherValue, otherMore) rest others
      simp only [List.map_cons, enclosed_cons, List.flatMap_map] at together
      rcases pair together with ⟨⟨alike, alikeOnward⟩, onward⟩
      exact ⟨.cons alike alikeOnward, onward⟩

/-! ## What ends at a mark -/

section Marks

variable {mark : Char}

theorem takeWhile_mark {front : List Char} (plain : mark ∉ front) (rest : List Char) :
    (front ++ mark :: rest).takeWhile (· ≠ mark) = front := by
  have inside : ∀ symbol ∈ front, decide (symbol ≠ mark) = true := by
    intro symbol member
    exact decide_eq_true fun here => plain (here ▸ member)
  rw [List.takeWhile_append_of_pos inside]
  simp

/-- What stands before the first mark and what stands behind it are both known from the whole. -/
theorem append_mark_inj {front other rest others : List Char} (plain : mark ∉ front) (otherPlain : mark ∉ other)
    (together : front ++ mark :: rest = other ++ mark :: others) : front = other ∧ rest = others := by
  have fronts : front = other := by
    rw [← takeWhile_mark plain rest, together, takeWhile_mark otherPlain]
  subst fronts
  exact ⟨rfl, (List.cons.inj (List.append_cancel_left together)).2⟩

end Marks

/-! ## Numbers -/

section Numbers

variable {base : Nat}

theorem digitChar_injective : ∀ digit < 16, ∀ other < 16,
    Nat.digitChar digit = Nat.digitChar other → digit = other := by decide

/-- The digits of a number: one of them, or the digits of a smaller number and one more. -/
theorem toDigits_cases (large : 1 < base) (number : Nat) :
    number < base ∧ Nat.toDigits base number = [Nat.digitChar number] ∨
    number / base < number ∧
      Nat.toDigits base number = Nat.toDigits base (number / base) ++ [Nat.digitChar (number % base)] := by
  rcases Nat.lt_or_ge number base with small | big
  · exact Or.inl ⟨small, Nat.toDigits_of_lt_base small⟩
  · have positive : 0 < number := by omega
    exact Or.inr ⟨Nat.div_lt_self positive large, Nat.toDigits_of_base_le large big⟩

theorem mem_of_mem_toDigits (large : 1 < base) (small : base ≤ 16) {number : Nat} {symbol : Char}
    (member : symbol ∈ Nat.toDigits base number) : symbol ∈ "0123456789abcdef".toList := by
  have listed : ∀ digit < 16, Nat.digitChar digit ∈ "0123456789abcdef".toList := by decide
  induction number using Nat.strongRecOn with
  | ind number inductionHypothesis =>
    rcases toDigits_cases large number with ⟨single, digits⟩ | ⟨less, digits⟩ <;> rw [digits] at member
    · rw [List.mem_singleton.mp member]
      exact listed number (by omega)
    · rcases List.mem_append.mp member with earlier | last
      · exact inductionHypothesis _ less earlier
      · have bounded : number % base < base := Nat.mod_lt number (by omega)
        rw [List.mem_singleton.mp last]
        exact listed _ (by omega)

theorem toDigits_injective (large : 1 < base) (small : base ≤ 16) {number other : Nat}
    (digits : Nat.toDigits base number = Nat.toDigits base other) : number = other := by
  induction number using Nat.strongRecOn generalizing other with
  | ind number inductionHypothesis =>
    rcases toDigits_cases large number with ⟨single, written⟩ | ⟨less, written⟩ <;>
      rcases toDigits_cases large other with ⟨otherSingle, otherWritten⟩ | ⟨otherLess, otherWritten⟩ <;>
      rw [written, otherWritten] at digits
    · exact digitChar_injective _ (by omega) _ (by omega) (List.singleton_inj.mp digits)
    · have sizes := congrArg List.length digits
      have some := Nat.length_toDigits_pos (b := base) (n := other / base)
      simp only [List.length_append, List.length_singleton] at sizes
      omega
    · have sizes := congrArg List.length digits
      have some := Nat.length_toDigits_pos (b := base) (n := number / base)
      simp only [List.length_append, List.length_singleton] at sizes
      omega
    · rcases List.append_inj' digits rfl with ⟨front, last⟩
      have quotient := inductionHypothesis _ less front
      have bounded : number % base < base := Nat.mod_lt number (by omega)
      have otherBounded : other % base < base := Nat.mod_lt other (by omega)
      have remainder := digitChar_injective _ (by omega) _ (by omega) (List.singleton_inj.mp last)
      rw [← Nat.div_add_mod number base, quotient, remainder, Nat.div_add_mod]

theorem legible_number (large : 1 < base) (small : base ≤ 16) {mark : Char}
    (foreign : mark ∉ "0123456789abcdef".toList) (number : Nat) :
    Legible (fun number => Nat.toDigits base number ++ [mark]) Eq number := by
  intro other rest others together
  have absent (number : Nat) : mark ∉ Nat.toDigits base number :=
    fun member => foreign (mem_of_mem_toDigits large small member)
  simp only [List.append_assoc, List.singleton_append] at together
  rcases append_mark_inj (absent number) (absent other) together with ⟨digits, onward⟩
  exact ⟨toDigits_injective large small digits, onward⟩

end Numbers

/-! ## Quoted text -/

/-- The character that a letter behind a backslash stands for. -/
def meant? : Char → Option Char
  | '"' => some '"'
  | '\\' => some '\\'
  | 'n' => some '\n'
  | 'r' => some '\r'
  | 't' => some '\t'
  | '0' => some '\x00'
  | _ => none

/-- A character is written as one letter behind a backslash, as its code point, or as itself. -/
theorem escaped_cases (symbol : Char) :
    (∃ letter, escaped symbol = ['\\', letter] ∧ meant? letter = some symbol) ∨
    escaped symbol = ['\\', 'u', '\x7b'] ++ (Nat.toDigits 16 symbol.toNat ++ ['\x7d']) ∨
    (escaped symbol = [symbol] ∧ symbol ≠ '"' ∧ symbol ≠ '\\') := by
  unfold escaped
  split
  · exact Or.inl ⟨_, rfl, rfl⟩
  · exact Or.inl ⟨_, rfl, rfl⟩
  · exact Or.inl ⟨_, rfl, rfl⟩
  · exact Or.inl ⟨_, rfl, rfl⟩
  · exact Or.inl ⟨_, rfl, rfl⟩
  · exact Or.inl ⟨_, rfl, rfl⟩
  · next noQuote noBackslash _ _ _ _ =>
    by_cases hidden : isHidden symbol
    · rw [if_pos hidden]
      exact Or.inr (Or.inl rfl)
    · rw [if_neg hidden]
      exact Or.inr (Or.inr ⟨rfl, noQuote, noBackslash⟩)

theorem legible_escaped (symbol : Char) : Legible escaped Eq symbol := by
  have code : Legible (fun code => ['\\', 'u', '\x7b'] ++ (Nat.toDigits 16 code ++ ['\x7d'])) Eq symbol.toNat :=
    (legible_number (by decide) (by decide) (by decide) symbol.toNat).behind _
  intro other rest others together
  rcases escaped_cases symbol with ⟨letter, written, meant⟩ | written | ⟨written, _, plain⟩ <;>
    rcases escaped_cases other with
      ⟨otherLetter, otherWritten, otherMeant⟩ | otherWritten | ⟨otherWritten, _, otherPlain⟩ <;>
    rw [written, otherWritten] at together
  · cases together
    rw [meant] at otherMeant
    exact ⟨Option.some.inj otherMeant, rfl⟩
  · cases together
    cases meant
  · cases together
    exact absurd rfl otherPlain
  · cases together
    cases otherMeant
  · rcases code other.toNat rest others together with ⟨codes, onward⟩
    exact ⟨Char.toNat_inj.mp codes, onward⟩
  · cases together
    exact absurd rfl otherPlain
  · cases together
    exact absurd rfl plain
  · cases together
    exact absurd rfl plain
  · cases together
    exact ⟨rfl, rfl⟩

theorem avoids_escaped : Avoids escaped '"' := by
  intro symbol
  rcases escaped_cases symbol with ⟨letter, written, _⟩ | written | ⟨written, noQuote, _⟩
  · exact ⟨'\\', [letter], written, by decide⟩
  · exact ⟨'\\', _, written, by decide⟩
  · exact ⟨symbol, [], written, noQuote⟩

theorem legible_quoted (text : String) : Legible (fun text => (quoted text).toList) Eq text := by
  have inside : Legible (fun symbols => ['"'] ++ (symbols.flatMap escaped ++ ['"'])) (List.Forall₂ Eq) text.toList :=
    (legible_flatMap avoids_escaped fun symbol _ => legible_escaped symbol).behind _
  intro other rest others together
  simp only [quoted, String.toList_ofList] at together
  rcases inside other.toList rest others together with ⟨texts, onward⟩
  exact ⟨String.toList_inj.mp (List.forall₂_eq_eq_eq ▸ texts), onward⟩

theorem legible_bool (value : Bool) : Legible (fun value => (bool value).toList) Eq value := by
  intro other rest others together
  cases value <;> cases other <;> cases together <;> exact ⟨rfl, rfl⟩

/-! ## Sequences and tables -/

theorem toList_sequence (values : List String) :
    (sequence values).toList = '[' :: enclosed ']' (values.map String.toList) := by
  unfold sequence
  rw [String.toList_append, String.toList_append, String.toList_intercalate]
  rfl

theorem toList_table (entries : List (String × String)) :
    (table entries).toList =
      '\x7b' :: enclosed '\x7d'
        (entries.map fun entry => (quoted entry.1).toList ++ ([':', ' '] ++ entry.2.toList)) := by
  unfold table
  rw [String.toList_append, String.toList_append, String.toList_intercalate, List.map_map]
  have written (entry : String × String) :
      (quoted entry.1 ++ ": " ++ entry.2).toList = (quoted entry.1).toList ++ ([':', ' '] ++ entry.2.toList) := by
    rw [String.toList_append, String.toList_append, List.append_assoc]
    rfl
  exact congrArg (fun shown => '\x7b' :: enclosed '\x7d' shown) (List.map_congr_left fun entry _ => written entry)

end Diagnostic
end NodeKeys
