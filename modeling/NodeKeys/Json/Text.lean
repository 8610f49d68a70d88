import NodeKeys.Hex

/-!
# JSON strings

Writing escapes the quotation mark, the backslash and the control characters below a space, five of them
by a letter of their own, and nothing else.  Reading knows all escapes.  A code above `\uffff` is written
as two escapes, and one of the two alone is an error.
-/

namespace NodeKeys
namespace Json

def escaped (symbol : Char) : List Char :=
  match symbol with
  | '"' => ['\\', '"']
  | '\\' => ['\\', '\\']
  | '\x08' => ['\\', 'b']
  | '\x0c' => ['\\', 'f']
  | '\n' => ['\\', 'n']
  | '\r' => ['\\', 'r']
  | '\t' => ['\\', 't']
  | other =>
    if other.toNat < 32 then
      ['\\', 'u', '0', '0', Hex.digit (other.toNat / 16), Hex.digit (other.toNat % 16)]
    else [other]

def quoted (text : List Char) : List Char :=
  '"' :: text.flatMap escaped ++ ['"']

def hexCode? (a b c d : Char) : Option Nat := do
  let first ← Hex.value? a
  let second ← Hex.value? b
  let third ← Hex.value? c
  let fourth ← Hex.value? d
  return ((first * 16 + second) * 16 + third) * 16 + fourth

/-- The first half of a code above `\uffff`. -/
def isLeading (code : Nat) : Bool := 0xd800 ≤ code && code < 0xdc00

/-- The second half of a code above `\uffff`. -/
def isTrailing (code : Nat) : Bool := 0xdc00 ≤ code && code < 0xe000

/-- The character that a letter after a backslash stands for. -/
def letterEscape? : Char → Option Char
  | '"' => some '"'
  | '\\' => some '\\'
  | '/' => some '/'
  | 'b' => some '\x08'
  | 'f' => some '\x0c'
  | 'n' => some '\n'
  | 'r' => some '\r'
  | 't' => some '\t'
  | _ => none

/-- The character of an escape whose text after the backslash begins here, and how long that text is. -/
def readEscape : List Char → Option (Char × Nat)
  | 'u' :: a :: b :: c :: d :: rest => do
    let code ← hexCode? a b c d
    if isTrailing code then none
    else if isLeading code then
      match rest with
      | '\\' :: 'u' :: e :: f :: g :: h :: _ => do
        let second ← hexCode? e f g h
        if isTrailing second then
          return (Char.ofNat (0x10000 + (code - 0xd800) * 1024 + (second - 0xdc00)), 11)
        else none
      | _ => none
    else return (Char.ofNat code, 5)
  | symbol :: _ => (letterEscape? symbol).map fun meant => (meant, 1)
  | [] => none

/-- Read a string after its first quotation mark: its text, and what follows the last mark. -/
def readText : List Char → Option (List Char × List Char)
  | [] => none
  | '"' :: rest => some ([], rest)
  | '\\' :: rest => do
    let (meant, size) ← readEscape rest
    let (text, after) ← readText (rest.drop size)
    return (meant :: text, after)
  | symbol :: rest =>
    if symbol.toNat < 32 then none
    else do
      let (text, after) ← readText rest
      return (symbol :: text, after)
termination_by input => input.length
decreasing_by all_goals simp only [List.length_drop, List.length_cons]; omega

end Json
end NodeKeys
