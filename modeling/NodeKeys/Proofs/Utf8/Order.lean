import Mathlib.Data.String.Basic
import NodeKeys.Utf8

/-!
# The order of text is the order of its bytes

Tables compare their names character by character.  Their UTF-8 bytes, compared one by one, give the same order: the
first byte of a character tells how many follow, a longer character has the greater first byte, and within one length
the digits of the code point come in order, the highest first.
-/

namespace NodeKeys
namespace Utf8

/-- The bytes behind the first one, which hold the last digits of a code point in base sixty-four. -/
def continuation : (count : Nat) → (code : Nat) → List UInt8
  | 0, _ => []
  | count + 1, code => continuation count (code / 64) ++ [UInt8.ofNat (code % 64 + 128)]

/-- How many bytes stand behind the first one, and what marks the first byte, for a code point of this size. -/
inductive Class : (count mark code : Nat) → Prop
  | one {code : Nat} (high : code < 0x80) : Class 0 0 code
  | two {code : Nat} (low : 0x80 ≤ code) (high : code < 0x800) : Class 1 0xc0 code
  | three {code : Nat} (low : 0x800 ≤ code) (high : code < 0x10000) : Class 2 0xe0 code
  | four {code : Nat} (low : 0x10000 ≤ code) (high : code < 0x110000) : Class 3 0xf0 code

theorem toNat_lt (symbol : Char) : symbol.toNat < 0x110000 := by
  rcases symbol.valid with low | ⟨_, high⟩
  · exact Nat.lt_trans low (by decide)
  · exact high

theorem exists_utf8EncodeChar (symbol : Char) : ∃ count mark, Class count mark symbol.toNat ∧
    String.utf8EncodeChar symbol =
      UInt8.ofNat (mark + symbol.toNat / 64 ^ count) :: continuation count symbol.toNat := by
  have bounded := toNat_lt symbol
  have named : symbol.val.toNat = symbol.toNat := rfl
  unfold String.utf8EncodeChar
  dsimp only
  rw [named]
  generalize symbol.toNat = code at bounded ⊢
  split_ifs with one two three
  · exact ⟨0, 0, .one (by omega), by simp [continuation]⟩
  · have digit : code / 64 % 32 = code / 64 := Nat.mod_eq_of_lt (by omega)
    exact ⟨1, 0xc0, .two (by omega) (by omega), by simp [continuation, digit, Nat.add_comm]⟩
  · have digit : code / 4096 % 16 = code / 4096 := Nat.mod_eq_of_lt (by omega)
    refine ⟨2, 0xe0, .three (by omega) (by omega), ?_⟩
    simp [continuation, digit, Nat.add_comm]
  · have digit : code / 262144 % 8 = code / 262144 := Nat.mod_eq_of_lt (by omega)
    refine ⟨3, 0xf0, .four (by omega) (by omega), ?_⟩
    simp [continuation, digit, Nat.add_comm, Nat.div_div_eq_div_mul]

/-! ## One character -/

theorem cons_lt_cons_of_lt {byte other : Nat} (less : byte < other) (bounded : other < 256)
    (rest others : List UInt8) : UInt8.ofNat byte :: rest < UInt8.ofNat other :: others := by
  refine List.cons_lt_cons_iff.mpr (Or.inl ?_)
  rw [UInt8.lt_iff_toNat_lt, UInt8.toNat_ofNat', UInt8.toNat_ofNat']
  omega

theorem append_lt_append_left {front rest others : List UInt8} (less : rest < others) :
    front ++ rest < front ++ others := by
  induction front with
  | nil => exact less
  | cons byte front inductionHypothesis => exact List.cons_lt_cons_iff.mpr (Or.inr ⟨rfl, inductionHypothesis⟩)

/-- Of two numbers with the same higher digits, the lower digits decide. -/
theorem continuation_lt {count code other : Nat} (less : code < other)
    (same : code / 64 ^ count = other / 64 ^ count) (rest others : List UInt8) :
    continuation count code ++ rest < continuation count other ++ others := by
  induction count generalizing code other rest others with
  | zero => omega
  | succ count inductionHypothesis =>
    rw [continuation, continuation, List.append_assoc, List.append_assoc]
    rcases Nat.lt_or_eq_of_le (Nat.div_le_div_right (c := 64) less.le) with smaller | equal
    · apply inductionHypothesis smaller
      rwa [Nat.pow_succ', ← Nat.div_div_eq_div_mul, ← Nat.div_div_eq_div_mul] at same
    · rw [equal]
      exact append_lt_append_left (cons_lt_cons_of_lt (by omega) (by omega) rest others)

theorem utf8EncodeChar_lt {symbol other : Char} (less : symbol < other) (rest others : List UInt8) :
    String.utf8EncodeChar symbol ++ rest < String.utf8EncodeChar other ++ others := by
  have codes : symbol.toNat < other.toNat := less
  rcases exists_utf8EncodeChar symbol with ⟨count, mark, size, written⟩
  rcases exists_utf8EncodeChar other with ⟨otherCount, otherMark, otherSize, otherWritten⟩
  rw [written, otherWritten]
  generalize symbol.toNat = code at codes size ⊢
  generalize other.toNat = otherCode at codes otherSize ⊢
  have first : mark + code / 64 ^ count < otherMark + otherCode / 64 ^ otherCount ∨
      count = otherCount ∧ mark = otherMark ∧ code / 64 ^ count = otherCode / 64 ^ otherCount := by
    cases size <;> cases otherSize <;> omega
  have bounded : otherMark + otherCode / 64 ^ otherCount < 256 := by
    cases otherSize <;> omega
  rcases first with smaller | ⟨rfl, rfl, same⟩
  · exact cons_lt_cons_of_lt smaller bounded _ _
  · rw [same]
    exact List.cons_lt_cons_iff.mpr (Or.inr ⟨rfl, continuation_lt codes same rest others⟩)

/-! ## Whole texts -/

theorem flatMap_utf8EncodeChar_lt {symbols others : List Char} (less : symbols < others) :
    symbols.flatMap String.utf8EncodeChar < others.flatMap String.utf8EncodeChar := by
  induction less with
  | @nil symbol rest =>
    rcases exists_utf8EncodeChar symbol with ⟨_, _, _, written⟩
    rw [List.flatMap_cons, written]
    exact .nil
  | rel here =>
    rw [List.flatMap_cons, List.flatMap_cons]
    exact utf8EncodeChar_lt here _ _
  | cons _ inductionHypothesis =>
    rw [List.flatMap_cons, List.flatMap_cons]
    exact append_lt_append_left inductionHypothesis

theorem bytes_lt {first second : String} (less : first < second) : bytes first < bytes second :=
  flatMap_utf8EncodeChar_lt (String.lt_iff_toList_lt.mp less)

/-- Texts stand in the order of their UTF-8 bytes. -/
theorem bytes_lt_iff (first second : String) : bytes first < bytes second ↔ first < second := by
  constructor
  · intro less
    rcases lt_trichotomy first second with smaller | rfl | greater
    · exact smaller
    · exact absurd less (List.lt_irrefl _)
    · exact absurd (bytes_lt greater) (List.lt_asymm less)
  · exact bytes_lt

end Utf8
end NodeKeys
