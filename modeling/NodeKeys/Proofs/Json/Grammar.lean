import Mathlib.Data.List.Basic
import NodeKeys.Json.Skip

/-!
# The grammar of JSON

What a JSON text is, said without a reader: white space, strings, numbers, and values with white space around them
in arrays and objects.  A string in a value that nobody reads is any sequence of characters and escapes.  A string
that is read has a meaning, for which a code above `\uffff` takes two escapes.
-/

namespace NodeKeys
namespace Json

/-! ## Strings -/

/-- An escape, after its backslash. -/
inductive IsEscape : List Char → Prop
  | letter {letter meant : Char} (known : letterEscape? letter = some meant) : IsEscape [letter]
  | code {a b c d : Char} {code : Nat} (digits : hexCode? a b c d = some code) : IsEscape ['u', a, b, c, d]

/-- What stands between the quotation marks of a string. -/
inductive IsBody : List Char → Prop
  | nil : IsBody []
  | plain {symbol : Char} {body : List Char} (noQuote : symbol ≠ '"') (noBackslash : symbol ≠ '\\')
      (high : ¬ symbol.toNat < 32) (onward : IsBody body) : IsBody (symbol :: body)
  | escape {escape body : List Char} (escaped : IsEscape escape) (onward : IsBody body) :
      IsBody ('\\' :: (escape ++ body))

/-- The character that an escape stands for. -/
inductive Means : List Char → Char → Prop
  | letter {letter meant : Char} (known : letterEscape? letter = some meant) : Means [letter] meant
  | code {a b c d meant : Char} (digits : hexCode? a b c d = some meant.toNat) : Means ['u', a, b, c, d] meant
  | pair {a b c d e f g h meant : Char} {leading trailing : Nat} (first : hexCode? a b c d = some leading)
      (second : hexCode? e f g h = some trailing) (leads : isLeading leading = true)
      (trails : isTrailing trailing = true)
      (sum : meant.toNat = 0x10000 + (leading - 0xd800) * 0x400 + (trailing - 0xdc00)) :
      Means ['u', a, b, c, d, '\\', 'u', e, f, g, h] meant

/-- The text that stands between the quotation marks of a string. -/
inductive Spells : (body text : List Char) → Prop
  | nil : Spells [] []
  | plain {symbol : Char} {body text : List Char} (noQuote : symbol ≠ '"') (noBackslash : symbol ≠ '\\')
      (high : ¬ symbol.toNat < 32) (onward : Spells body text) : Spells (symbol :: body) (symbol :: text)
  | escape {escape body text : List Char} {meant : Char} (escaped : Means escape meant) (onward : Spells body text) :
      Spells ('\\' :: (escape ++ body)) (meant :: text)

/-! ## Numbers -/

def IsDigits (digits : List Char) : Prop :=
  digits ≠ [] ∧ digits.all Char.isDigit = true

inductive IsFraction : List Char → Prop
  | absent : IsFraction []
  | present {digits : List Char} (nonempty : IsDigits digits) : IsFraction ('.' :: digits)

inductive IsExponent : List Char → Prop
  | absent : IsExponent []
  | present {mark : Char} {sign digits : List Char} (marked : mark = 'e' ∨ mark = 'E')
      (signed : sign = [] ∨ sign = ['+'] ∨ sign = ['-']) (nonempty : IsDigits digits) :
      IsExponent (mark :: (sign ++ digits))

/-- A number.  A zero is never followed by more digits. -/
inductive IsNumber : List Char → Prop
  | mk {sign whole fraction exponent : List Char} (signed : sign = [] ∨ sign = ['-']) (nonempty : IsDigits whole)
      (noZero : ∀ more, whole = '0' :: more → more = []) (fractional : IsFraction fraction)
      (exponential : IsExponent exponent) : IsNumber (sign ++ (whole ++ (fraction ++ exponent)))

/-! ## Values -/

/-- A value with white space around it. -/
structure Element where
  before : List Char
  value : List Char
  after : List Char
  blankBefore : before.all isBlank = true
  blankAfter : after.all isBlank = true

def Element.text (element : Element) : List Char :=
  element.before ++ (element.value ++ element.after)

/-- A member of an object: a name and a value, with white space around both. -/
structure Member where
  indent : List Char
  name : List Char
  gap : List Char
  element : Element
  blankIndent : indent.all isBlank = true
  blankGap : gap.all isBlank = true

def Member.text (member : Member) : List Char :=
  member.indent ++ ('"' :: (member.name ++ '"' :: (member.gap ++ ':' :: member.element.text)))

/-- Texts that follow a first one, each after a comma. -/
def behindCommas (texts : List (List Char)) : List Char :=
  texts.flatMap (',' :: ·)

/-- The first of some texts and the others, with commas between them. -/
def listed {α : Type} (text : α → List Char) (first : α) (others : List α) : List Char :=
  text first ++ behindCommas (others.map text)

/-- A value. -/
inductive IsValue : List Char → Prop
  | nullWord : IsValue ['n', 'u', 'l', 'l']
  | trueWord : IsValue ['t', 'r', 'u', 'e']
  | falseWord : IsValue ['f', 'a', 'l', 's', 'e']
  | number {number : List Char} (written : IsNumber number) : IsValue number
  | string {body : List Char} (written : IsBody body) : IsValue ('"' :: (body ++ ['"']))
  | emptyArray {blanks : List Char} (blank : blanks.all isBlank = true) : IsValue ('[' :: (blanks ++ [']']))
  | array {first : Element} {others : List Element}
      (values : ∀ element ∈ first :: others, IsValue element.value) :
      IsValue ('[' :: (listed Element.text first others ++ [']']))
  | emptyObject {blanks : List Char} (blank : blanks.all isBlank = true) :
      IsValue ('\x7b' :: (blanks ++ ['\x7d']))
  | object {first : Member} {others : List Member} (names : ∀ member ∈ first :: others, IsBody member.name)
      (values : ∀ member ∈ first :: others, IsValue member.element.value) :
      IsValue ('\x7b' :: (listed Member.text first others ++ ['\x7d']))

/-! ## Objects and their fields -/

/-- The value is the string of this text. -/
def IsText (value : List Char) (text : String) : Prop :=
  ∃ body, Spells body text.toList ∧ value = '"' :: (body ++ ['"'])

/-- The member has this name and this value. -/
def Member.Holds (member : Member) (field : String × List Char) : Prop :=
  Spells member.name field.1.toList ∧ IsValue member.element.value ∧ member.element.value = field.2

/-- An object with these fields in this order. -/
inductive IsObject : (fields : List (String × List Char)) → List Char → Prop
  | empty {blanks : List Char} (blank : blanks.all isBlank = true) : IsObject [] ('\x7b' :: (blanks ++ ['\x7d']))
  | members {first : Member} {others : List Member} {fields : List (String × List Char)}
      (hold : List.Forall₂ Member.Holds (first :: others) fields) :
      IsObject fields ('\x7b' :: (listed Member.text first others ++ ['\x7d']))

/-- An array of two strings with these texts. -/
inductive IsPair (first second : String) : List Char → Prop
  | mk {one two : Element} (isFirst : IsText one.value first) (isSecond : IsText two.value second) :
      IsPair first second ('[' :: (listed Element.text one [two] ++ [']']))

/-- Exactly one of the fields has this name, and its value is the string of this text. -/
def HoldsOnce (name text : String) (fields : List (String × List Char)) : Prop :=
  ∃ before value after, fields = before ++ (name, value) :: after ∧ IsText value text ∧
    name ∉ before.map Prod.fst ∧ name ∉ after.map Prod.fst

end Json
end NodeKeys
