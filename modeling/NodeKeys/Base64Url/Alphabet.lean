/-!
# The sixty-four symbols

A symbol stands for six bits.  The standard spelling of the last two symbols is `+` and `/`; in an
address these have a meaning of their own, so key texts spell them `-` and `_`.  All other symbols
are letters and digits and are the same in both spellings.  `=` is no symbol: it fills a group of
four that is not complete.
-/

namespace NodeKeys
namespace Base64Url

/-- Six bits, the value of one symbol. -/
abbrev Sextet := Fin 64

def standardSymbol (value : Sextet) : Char :=
  if value.val < 26 then Char.ofNat (65 + value.val)
  else if value.val < 52 then Char.ofNat (71 + value.val)
  else if value.val < 62 then Char.ofNat (value.val - 4)
  else if value.val = 62 then '+'
  else '/'

/-- The six bits of a byte of standard text, if the byte is a symbol. -/
def sextet? (byte : UInt8) : Option Sextet :=
  let code := byte.toNat
  if 65 ≤ code ∧ code ≤ 90 then some (Fin.ofNat 64 (code - 65))
  else if 97 ≤ code ∧ code ≤ 122 then some (Fin.ofNat 64 (code - 71))
  else if 48 ≤ code ∧ code ≤ 57 then some (Fin.ofNat 64 (code + 4))
  else if code = 43 then some 62
  else if code = 47 then some 63
  else none

def padByte : UInt8 := 61

/-- Spell a character of key text the standard way. -/
def toStandard (symbol : Char) : Char :=
  match symbol with
  | '-' => '+'
  | '_' => '/'
  | other => other

/-- Spell a character of standard text as in a key text, where `=` is left out. -/
def ofStandard? (symbol : Char) : Option Char :=
  match symbol with
  | '+' => some '-'
  | '/' => some '_'
  | '=' => none
  | other => some other

theorem sextet?_standardSymbol (value : Sextet) :
    sextet? (UInt8.ofNat (standardSymbol value).toNat) = some value := by
  revert value
  decide

theorem sextet?_padByte : sextet? padByte = none := by decide

end Base64Url
end NodeKeys
