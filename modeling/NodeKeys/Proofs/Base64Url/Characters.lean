import NodeKeys.Proofs.Base64Url.Canonical
import NodeKeys.Seed

/-!
# The characters of key text

What is written consists of the symbols of the URL-safe alphabet.  What is read may also have the other spelling
of two symbols, and `=` at its end.  It has nothing else: it is URL-safe exactly if it has none of these three, and
in any case it is a single word on a single line.
-/

namespace NodeKeys
namespace Base64Url

/-! ## Texts of known size -/

theorem decode_of_decodeExact {size : Nat} {text : String} {bytes : List UInt8} {sized : bytes.length = size}
    (read : decodeExact size text = .ok ⟨bytes, sized⟩) : decode text = .ok bytes := by
  unfold decodeExact at read
  cases decoded : decode text with
  | error error =>
    rw [decoded] at read
    cases read
  | ok content =>
    rw [decoded] at read
    dsimp only at read
    split at read
    · cases read
      rfl
    · cases read

theorem decodeExact_of_decode {size : Nat} {text : String} {bytes : List UInt8}
    (read : decode text = .ok bytes) (sized : bytes.length = size) :
    decodeExact size text = .ok ⟨bytes, sized⟩ := by
  rw [decodeExact, read]
  exact dif_pos sized

end Base64Url

theorem Seed.decode_of_ofText {text : String} {seed : Seed} (readable : ofText text = .ok seed) :
    Base64Url.decode text = .ok seed.bytes := by
  unfold ofText at readable
  split at readable
  · next bytes sized read =>
    cases readable
    exact Base64Url.decode_of_decodeExact read
  · cases readable
  · cases readable

theorem Seed.ofText_of_decode {text : String} {bytes : List UInt8} (read : Base64Url.decode text = .ok bytes)
    (sized : bytes.length = seedLength) : ofText text = .ok ⟨bytes, sized⟩ := by
  rw [ofText, Base64Url.decodeExact_of_decode read sized]

namespace Base64Url

/-! ## Classes of texts -/

/-- The text consists of letters, digits, hyphens and underscores. -/
def UrlSafe (text : String) : Prop :=
  ∀ symbol ∈ text.toList, symbol.isAlphanum ∨ symbol = '-' ∨ symbol = '_'

/-- The text has neither white space nor line breaks: it consists of the visible characters of ASCII. -/
def Solid (text : String) : Prop :=
  ∀ symbol ∈ text.toList, '!' ≤ symbol ∧ symbol ≤ '~'

/-! ## What is read -/

theorem urlSafe_keySymbol (value : Sextet) :
    (keySymbol value).isAlphanum ∨ keySymbol value = '-' ∨ keySymbol value = '_' := by
  revert value
  decide

theorem solid_keySymbol (value : Sextet) : '!' ≤ keySymbol value ∧ keySymbol value ≤ '~' := by
  revert value
  decide

theorem eq_keySymbol_of_symbolValue? {symbol : Char} {value : Sextet}
    (found : symbolValue? symbol = some value) :
    symbol = keySymbol value ∨ symbol = '+' ∨ symbol = '/' := by
  have respelled := ofStandard?_of_symbolValue? found
  unfold ofStandard? at respelled
  split at respelled
  · exact Or.inr (Or.inl rfl)
  · exact Or.inr (Or.inr rfl)
  · cases respelled
  · exact Or.inl (Option.some.inj respelled)

section Read

variable {text : String} {bytes : List UInt8}

theorem symbol_of_decode (read : decode text = .ok bytes) {symbol : Char} (member : symbol ∈ text.toList) :
    (∃ value, symbol = keySymbol value) ∨ symbol = '=' ∨ symbol = '+' ∨ symbol = '/' := by
  rcases spells_of_decode read with ⟨values, pads, spells⟩
  rcases spells.spelled with ⟨body, written, spelled⟩
  rw [written, String.toList_ofList] at member
  rcases List.mem_append.mp member with isSymbol | isPad
  · rcases exists_value_of_mem spelled isSymbol with ⟨value, found⟩
    rcases eq_keySymbol_of_symbolValue? found with same | other
    · exact Or.inl ⟨value, same⟩
    · exact Or.inr (Or.inr other)
  · exact Or.inr (Or.inl (List.eq_of_mem_replicate isPad))

theorem urlSafe_iff_of_decode (read : decode text = .ok bytes) :
    UrlSafe text ↔ '=' ∉ text.toList ∧ '+' ∉ text.toList ∧ '/' ∉ text.toList := by
  constructor
  · intro safe
    refine ⟨fun pad => ?_, fun plus => ?_, fun slash => ?_⟩
    · exact absurd (safe _ pad) (by decide)
    · exact absurd (safe _ plus) (by decide)
    · exact absurd (safe _ slash) (by decide)
  · rintro ⟨noPad, noPlus, noSlash⟩ symbol member
    rcases symbol_of_decode read member with ⟨value, rfl⟩ | rfl | rfl | rfl
    · exact urlSafe_keySymbol value
    · exact absurd member noPad
    · exact absurd member noPlus
    · exact absurd member noSlash

theorem solid_of_decode (read : decode text = .ok bytes) : Solid text := by
  intro symbol member
  rcases symbol_of_decode read member with ⟨value, rfl⟩ | rfl | rfl | rfl
  · exact solid_keySymbol value
  · decide
  · decide
  · decide

end Read

/-! ## What is written -/

theorem urlSafe_encode (bytes : List UInt8) : UrlSafe (encode bytes) := by
  intro symbol member
  rw [encode_eq, String.toList_ofList] at member
  rcases List.mem_filterMap.mp member with ⟨standard, inside, respelled⟩
  rcases mem_encodeStandard inside with rfl | ⟨value, rfl⟩
  · cases respelled
  · rw [ofStandard?_standardSymbol] at respelled
    cases respelled
    exact urlSafe_keySymbol value

theorem encode_eq_empty_iff (bytes : List UInt8) : encode bytes = "" ↔ bytes = [] := by
  constructor
  · intro empty
    have read := decode_encode bytes
    rw [empty] at read
    exact (Except.ok.inj read).symm
  · rintro rfl
    exact encode_eq []

theorem solid_encode (bytes : List UInt8) : Solid (encode bytes) :=
  solid_of_decode (decode_encode bytes)

end Base64Url
end NodeKeys
