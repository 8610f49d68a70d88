import NodeKeys.Json.Number
import NodeKeys.Json.Text

/-!
# Passing over JSON values

The value of a field that nobody asked for is passed over.  It has to be well formed, and nothing is made of
it: numbers may be of any size, and escapes in strings need not stand for characters.
-/

namespace NodeKeys
namespace Json

/-- White space between values. -/
def isBlank (symbol : Char) : Bool :=
  symbol == ' ' || symbol == '\n' || symbol == '\t' || symbol == '\r'

def skipBlank (input : List Char) : List Char :=
  input.dropWhile isBlank

/-- How long an escape is whose text after the backslash begins here. -/
def escapeSize? : List Char → Option Nat
  | 'u' :: a :: b :: c :: d :: _ => (hexCode? a b c d).map fun _ => 5
  | symbol :: _ => (letterEscape? symbol).map fun _ => 1
  | [] => none

def skipText : List Char → Option (List Char)
  | [] => none
  | '"' :: rest => some rest
  | '\\' :: rest => do
    let size ← escapeSize? rest
    skipText (rest.drop size)
  | symbol :: rest => if symbol.toNat < 32 then none else skipText rest
termination_by input => input.length
decreasing_by all_goals simp only [List.length_drop, List.length_cons]; omega

def skipWord (word : String) (input : List Char) : Option (List Char) :=
  if word.toList.isPrefixOf input then some (input.drop word.length) else none

mutual

/-- What follows a value.  The bound on nested calls is met by twice the length of the input. -/
def skipValue : (bound : Nat) → List Char → Option (List Char)
  | 0, _ => none
  | bound + 1, input =>
    match skipBlank input with
    | 'n' :: rest => skipWord "ull" rest
    | 't' :: rest => skipWord "rue" rest
    | 'f' :: rest => skipWord "alse" rest
    | '"' :: rest => skipText rest
    | '[' :: rest =>
      match skipBlank rest with
      | ']' :: after => some after
      | _ => skipItems bound rest
    | '\x7b' :: rest =>
      match skipBlank rest with
      | '\x7d' :: after => some after
      | _ => skipMembers bound rest
    | other => (Number.span? other).map Prod.snd

def skipItems : (bound : Nat) → List Char → Option (List Char)
  | 0, _ => none
  | bound + 1, input => do
    match skipBlank (← skipValue bound input) with
    | ',' :: rest => skipItems bound rest
    | ']' :: rest => some rest
    | _ => none

def skipMembers : (bound : Nat) → List Char → Option (List Char)
  | 0, _ => none
  | bound + 1, input =>
    match skipBlank input with
    | '"' :: name => do
      match skipBlank (← skipText name) with
      | ':' :: value =>
        match skipBlank (← skipValue bound value) with
        | ',' :: rest => skipMembers bound rest
        | '\x7d' :: rest => some rest
        | _ => none
      | _ => none
    | _ => none

end

def skip (input : List Char) : Option (List Char) :=
  skipValue (2 * input.length + 2) input

end Json
end NodeKeys
