import NodeKeys.Proofs.TransportKeys

/-!
# Which texts are keys

A seed and a private key are texts of the same language: forty-three symbols in either spelling, and one `=` after them
or none.  The last symbol has two bits that belong to no byte, so this is more than one text for each key, and no
other number of symbols gives thirty-two bytes.

The two readers differ in what they say of all other texts.  For a seed, a text that is not readable is told apart
from one that holds another number of bytes; for a private key it is not.  Both rest on `decodeExact`, which makes
the distinction for every size.
-/

namespace NodeKeys

open Base64Url

namespace Base64Url

/-! ## The language -/

/-- The character is a symbol of one of the two alphabets. -/
def IsSymbol (symbol : Char) : Prop :=
  ('A' ≤ symbol ∧ symbol ≤ 'Z') ∨ ('a' ≤ symbol ∧ symbol ≤ 'z') ∨ ('0' ≤ symbol ∧ symbol ≤ '9') ∨
    symbol = '+' ∨ symbol = '/' ∨ symbol = '-' ∨ symbol = '_'

instance (symbol : Char) : Decidable (IsSymbol symbol) :=
  inferInstanceAs (Decidable (_ ∨ _))

/-- Forty-three symbols, and at most one `=` after them. -/
def IsKeyText (text : String) : Prop :=
  ∃ body pads, text = String.ofList (body ++ List.replicate pads '=') ∧ body.length = 43 ∧
    (∀ symbol ∈ body, IsSymbol symbol) ∧ pads ≤ 1

/-- How many symbols a readable text has: all its characters but `=`. -/
def symbolCount (text : String) : Nat :=
  text.toList.countP (· ≠ '=')

theorem ascii_of_isSymbol {symbol : Char} (isSymbol : IsSymbol symbol) : symbol.toNat < 128 := by
  have below {highest : Char} (within : symbol ≤ highest) (ascii : highest.toNat < 128) : symbol.toNat < 128 :=
    Nat.lt_of_le_of_lt (UInt32.le_iff_toNat_le.mp within) ascii
  rcases isSymbol with ⟨_, upper⟩ | ⟨_, lower⟩ | ⟨_, digit⟩ | rfl | rfl | rfl | rfl
  · exact below upper (by decide)
  · exact below lower (by decide)
  · exact below digit (by decide)
  · decide
  · decide
  · decide
  · decide

/-- The symbols are the characters with a value. -/
theorem isSymbol_iff (symbol : Char) : IsSymbol symbol ↔ ∃ value, symbolValue? symbol = some value := by
  constructor
  · intro isSymbol
    have everyAscii : ∀ code < 128, IsSymbol (Char.ofNat code) → (symbolValue? (Char.ofNat code)).isSome := by
      decide +kernel
    have known := everyAscii symbol.toNat (ascii_of_isSymbol isSymbol)
    rw [Char.ofNat_toNat] at known
    exact Option.isSome_iff_exists.mp (known isSymbol)
  · rintro ⟨value, found⟩
    have everyKeySymbol : ∀ value, IsSymbol (keySymbol value) := by decide
    rcases eq_keySymbol_of_symbolValue? found with rfl | rfl | rfl
    · exact everyKeySymbol value
    · decide
    · decide

theorem exists_values {body : List Char} (symbols : ∀ symbol ∈ body, IsSymbol symbol) :
    ∃ values : List Sextet, body.map symbolValue? = values.map some := by
  induction body with
  | nil => exact ⟨[], rfl⟩
  | cons symbol rest inductionHypothesis =>
    rcases List.forall_mem_cons.mp symbols with ⟨isSymbol, later⟩
    rcases (isSymbol_iff symbol).mp isSymbol with ⟨value, found⟩
    rcases inductionHypothesis later with ⟨values, spelled⟩
    exact ⟨value :: values, by rw [List.map_cons, List.map_cons, found, spelled]⟩

theorem isSymbol_of_values {body : List Char} {values : List Sextet}
    (spelled : body.map symbolValue? = values.map some) : ∀ symbol ∈ body, IsSymbol symbol :=
  fun symbol member => (isSymbol_iff symbol).mpr (exists_value_of_mem spelled member)

/-- Of the texts that are read, the keys are those with forty-three symbols. -/
theorem isKeyText_iff_spells (text : String) :
    IsKeyText text ↔ ∃ values pads, Spells text values pads ∧ values.length = 43 := by
  constructor
  · rintro ⟨body, pads, written, length, symbols, few⟩
    rcases exists_values symbols with ⟨values, spelled⟩
    rw [length_of_values spelled] at length
    exact ⟨values, pads, ⟨⟨body, written, spelled⟩, by omega, by omega, by omega, fun _ => few⟩, length⟩
  · rintro ⟨values, pads, spells, length⟩
    rcases spells.spelled with ⟨body, written, spelled⟩
    have few : pads ≤ 1 := spells.pads_three (by omega)
    exact ⟨body, pads, written, (length_of_values spelled).trans length, isSymbol_of_values spelled, few⟩

/-! ## How many symbols, how many bytes -/

theorem Spells.symbolCount_eq {text : String} {values : List Sextet} {pads : Nat}
    (spells : Spells text values pads) : symbolCount text = values.length := by
  rcases spells.spelled with ⟨body, written, spelled⟩
  have notPad : ¬ IsSymbol '=' := by decide
  have all : body.countP (· ≠ '=') = body.length := by
    rw [List.countP_eq_length]
    intro symbol member
    rw [decide_eq_true_eq]
    rintro rfl
    exact notPad (isSymbol_of_values spelled _ member)
  have none : (List.replicate pads '=').countP (· ≠ '=') = 0 := by
    rw [List.countP_replicate]
    rfl
  rw [symbolCount, written, String.toList_ofList, List.countP_append, all, none, Nat.add_zero,
    length_of_values spelled]

section Read

variable {text : String} {bytes : List UInt8}

theorem symbolCount_of_decode (read : decode text = .ok bytes) :
    symbolCount text % 4 ≠ 1 ∧ bytes.length = 6 * symbolCount text / 8 := by
  rcases spells_of_decode read with ⟨values, pads, spells⟩
  rw [decode_of_spells spells] at read
  cases read
  rw [spells.symbolCount_eq, length_joined]
  exact ⟨spells.not_one, rfl⟩

/-- Two bits of the last symbol are left over, so no other number of symbols makes thirty-two bytes. -/
theorem length_eq_iff_symbolCount (read : decode text = .ok bytes) :
    bytes.length = 32 ↔ symbolCount text = 43 := by
  have known := symbolCount_of_decode read
  omega

end Read

theorem isKeyText_iff_decode (text : String) :
    IsKeyText text ↔ ∃ bytes : List UInt8, decode text = .ok bytes ∧ bytes.length = 32 := by
  rw [isKeyText_iff_spells]
  constructor
  · rintro ⟨values, pads, spells, length⟩
    refine ⟨joined values, decode_of_spells spells, ?_⟩
    rw [length_joined, length]
  · rintro ⟨bytes, read, sized⟩
    rcases spells_of_decode read with ⟨values, pads, spells⟩
    refine ⟨values, pads, spells, ?_⟩
    rw [← spells.symbolCount_eq]
    exact (length_eq_iff_symbolCount read).mp sized

/-! ## Reading with a known size -/

section Size

variable (size : Nat) (text : String)

theorem decodeExact_eq_ok_iff (content : { bytes : List UInt8 // bytes.length = size }) :
    decodeExact size text = .ok content ↔ decode text = .ok content.val := by
  constructor
  · exact decode_of_decodeExact
  · intro read
    exact decodeExact_of_decode read content.property

theorem decodeExact_eq_length_iff (expected actual : Nat) :
    decodeExact size text = .error (.length expected actual) ↔
      expected = size ∧ actual ≠ size ∧ ∃ bytes : List UInt8, decode text = .ok bytes ∧ bytes.length = actual := by
  unfold decodeExact
  cases decode text with
  | error error =>
    constructor
    · rintro ⟨⟩
    · rintro ⟨_, _, bytes, ⟨⟩, _⟩
  | ok bytes =>
    dsimp only
    split
    · next sized =>
      constructor
      · rintro ⟨⟩
      · rintro ⟨_, wrong, _, ⟨⟩, rfl⟩
        exact absurd sized wrong
    · next wrong =>
      constructor
      · rintro ⟨⟩
        exact ⟨rfl, wrong, bytes, rfl, rfl⟩
      · rintro ⟨rfl, _, _, ⟨⟩, rfl⟩
        rfl

theorem decodeExact_eq_decode_iff (cause : TextError) :
    decodeExact size text = .error (.decode cause) ↔ decode text = .error cause := by
  unfold decodeExact
  cases decode text with
  | error error =>
    constructor
    · rintro ⟨⟩
      rfl
    · rintro ⟨⟩
      rfl
  | ok bytes =>
    dsimp only
    split
    · exact ⟨nofun, nofun⟩
    · exact ⟨nofun, nofun⟩

end Size

end Base64Url

/-! ## Seeds and private keys -/

namespace Seed

variable (text : String)

theorem exists_ofText_eq_ok_iff : (∃ seed, ofText text = .ok seed) ↔ IsKeyText text := by
  rw [isKeyText_iff_decode]
  constructor
  · rintro ⟨seed, readable⟩
    exact ⟨seed.bytes, decode_of_ofText readable, seed.length_bytes⟩
  · rintro ⟨bytes, read, sized⟩
    exact ⟨_, ofText_of_decode read sized⟩

theorem ofText_eq_invalidSeedLength_iff (expected actual : Nat) :
    ofText text = .error (.invalidSeedLength expected actual) ↔
      decodeExact seedLength text = .error (.length expected actual) := by
  unfold ofText
  cases decodeExact seedLength text with
  | ok content => exact ⟨nofun, nofun⟩
  | error error =>
    cases error with
    | decode cause => exact ⟨nofun, nofun⟩
    | length wanted given =>
      constructor
      · rintro ⟨⟩
        rfl
      · rintro ⟨⟩
        rfl

theorem ofText_eq_invalidSeed_iff (error : CodecError) :
    ofText text = .error (.invalidSeed error) ↔ ∃ cause, decode text = .error cause ∧ error = .decode cause := by
  simp only [← decodeExact_eq_decode_iff seedLength text]
  unfold ofText
  cases decodeExact seedLength text with
  | ok content =>
    constructor
    · rintro ⟨⟩
    · rintro ⟨_, ⟨⟩, _⟩
  | error found =>
    cases found with
    | decode cause =>
      constructor
      · rintro ⟨⟩
        exact ⟨cause, rfl, rfl⟩
      · rintro ⟨_, ⟨⟩, rfl⟩
        rfl
    | length expected actual =>
      constructor
      · rintro ⟨⟩
      · rintro ⟨_, ⟨⟩, _⟩

end Seed

namespace TransportKeys

variable {σ : Type} (text : String) (world : World σ)

theorem exists_value_publicKeyOf_eq_ok_iff :
    (∃ publicKey, (publicKeyOf text world).value = .ok publicKey) ↔ IsKeyText text := by
  simp only [isKeyText_iff_decode, value_publicKeyOf_eq_ok_iff]
  constructor
  · rintro ⟨_, bytes, read, sized, rfl⟩
    exact ⟨bytes, read, sized⟩
  · rintro ⟨bytes, read, sized⟩
    exact ⟨_, bytes, read, sized, rfl⟩

theorem value_publicKeyOf_eq_error_iff (error : KeygenError) :
    (publicKeyOf text world).value = .error error ↔
      ¬ IsKeyText text ∧ error = .invalidKey "invalid private key" := by
  rw [← exists_value_publicKeyOf_eq_ok_iff text world, publicKeyOf]
  cases decodeExact keyLength text with
  | ok content =>
    constructor
    · rintro ⟨⟩
    · rintro ⟨rejected, _⟩
      exact absurd ⟨_, rfl⟩ rejected
  | error cause =>
    constructor
    · rintro ⟨⟩
      refine ⟨?_, rfl⟩
      rintro ⟨_, ⟨⟩⟩
    · rintro ⟨_, rfl⟩
      rfl

end TransportKeys

/-- A seed and a private key are accepted from the same texts: forty-three symbols, and one `=` or none.  Of the other
texts, a seed reader says whether they hold another number of bytes, and how many, or are not readable, and why; to a
reader of private keys they are all invalid.  For any size of key, reading gives the bytes of a text that holds so
many, the number of bytes of a text that holds more or less, and otherwise the reason why the text is not readable. -/
theorem key_texts_are_told_apart {σ : Type} :
    (∀ text, (∃ seed, Seed.ofText text = .ok seed) ↔ IsKeyText text) ∧
    (∀ text expected actual, Seed.ofText text = .error (.invalidSeedLength expected actual) ↔
      expected = 32 ∧ (∃ bytes, decode text = .ok bytes) ∧ symbolCount text ≠ 43 ∧
        actual = 6 * symbolCount text / 8) ∧
    (∀ text error, Seed.ofText text = .error (.invalidSeed error) ↔
      ∃ cause, decode text = .error cause ∧ error = .decode cause) ∧
    (∀ text, ∀ world : World σ,
      ((∃ publicKey, (TransportKeys.publicKeyOf text world).value = .ok publicKey) ↔ IsKeyText text) ∧
      ∀ error, (TransportKeys.publicKeyOf text world).value = .error error ↔
        ¬ IsKeyText text ∧ error = .invalidKey "invalid private key") ∧
    ∀ size text,
      (∀ content, decodeExact size text = .ok content ↔ decode text = .ok content.val) ∧
      (∀ expected actual, decodeExact size text = .error (.length expected actual) ↔
        expected = size ∧ actual ≠ size ∧ ∃ bytes, decode text = .ok bytes ∧ bytes.length = actual) ∧
      ∀ cause, decodeExact size text = .error (.decode cause) ↔ decode text = .error cause := by
  refine ⟨Seed.exists_ofText_eq_ok_iff, ?wrongLength, Seed.ofText_eq_invalidSeed_iff, ?privateKey, ?anySize⟩
  case wrongLength =>
    intro text expected actual
    rw [Seed.ofText_eq_invalidSeedLength_iff, decodeExact_eq_length_iff]
    constructor
    · rintro ⟨wanted, wrong, bytes, read, rfl⟩
      have count := (symbolCount_of_decode read).2
      exact ⟨wanted, ⟨bytes, read⟩, fun all => wrong ((length_eq_iff_symbolCount read).mpr all), count⟩
    · rintro ⟨wanted, ⟨bytes, read⟩, notAll, rfl⟩
      rw [← (symbolCount_of_decode read).2]
      exact ⟨wanted, fun sized => notAll ((length_eq_iff_symbolCount read).mp sized), bytes, read, rfl⟩
  case privateKey =>
    intro text world
    exact ⟨TransportKeys.exists_value_publicKeyOf_eq_ok_iff text world,
      TransportKeys.value_publicKeyOf_eq_error_iff text world⟩
  case anySize =>
    intro size text
    exact ⟨decodeExact_eq_ok_iff size text, decodeExact_eq_length_iff size text,
      decodeExact_eq_decode_iff size text⟩

end NodeKeys
