import NodeKeys.Toml.DateTime
import NodeKeys.Toml.Definition
import NodeKeys.Toml.Number
import NodeKeys.Toml.Text

/-!
# TOML documents

Reading a document gives its definitions, and these make its table.  Values that hold others may be nested
to a fixed depth, and keys may have a fixed number of names.

A reader of a part returns the part and what follows it, or nothing if the part is not well formed.
-/

namespace NodeKeys
namespace Toml

/-- How many values that hold others may stand inside each other, and how many names a key may have. -/
def depthLimit : Nat := 79

/-- A character of a name without marks. -/
def isBare (symbol : Char) : Bool :=
  symbol.isAlphanum || symbol == '-' || symbol == '_'

def readName (input : List Char) : Option (String × List Char) :=
  match input with
  | '"' :: rest => (readQuoted rest).map fun (name, after) => (String.ofList name, after)
  | '\x27' :: rest => (readLiteral rest).map fun (name, after) => (String.ofList name, after)
  | _ =>
    match input.takeWhile isBare with
    | [] => none
    | name => some (String.ofList name, input.dropWhile isBare)

/-- Read a key of a limited number of names and the white space after it. -/
def readKey : (names : Nat) → List Char → Option (KeyPath × List Char)
  | 0, _ => none
  | names + 1, input => do
    let (name, after) ← readName (skipBlank input)
    match skipBlank after with
    | '.' :: more => do
      let (key, rest) ← readKey names more
      return ({ key with parents := name :: key.parents }, rest)
    | rest => return (⟨[], name⟩, rest)

def skipPlain (input : List Char) : List Char :=
  input.dropWhile isPlain

theorem length_skipPlain_le (input : List Char) : (skipPlain input).length ≤ input.length :=
  (List.dropWhile_suffix isPlain).length_le

/-- What follows white space, line ends and comments. -/
def skipLines : List Char → List Char
  | ' ' :: rest | '\t' :: rest | '\n' :: rest | '\r' :: '\n' :: rest => skipLines rest
  | '#' :: rest => skipLines (skipPlain rest)
  | other => other
termination_by input => input.length
decreasing_by
  all_goals have _shorter := length_skipPlain_le rest
  all_goals simp only [List.length_cons]
  all_goals omega

/-- A reader of values. -/
abbrev ValueReader : Type := List Char → Option (Value × List Char)

/-- Read the items of an array and its closing bracket.  A comma may follow the last item.  The bound on the
number of items is met by the length of the input. -/
def readItems (readValue : ValueReader) : (bound : Nat) → List Char → Option (List Value × List Char)
  | 0, _ => none
  | bound + 1, input =>
    match skipLines input with
    | ']' :: rest => some ([], rest)
    | start => do
      let (item, after) ← readValue start
      match skipLines after with
      | ',' :: more => (readItems readValue bound more).map fun (items, rest) => (item :: items, rest)
      | ']' :: rest => return ([item], rest)
      | _ => none

def readAssignment (readValue : ValueReader) (input : List Char) :
    Option ((KeyPath × Value) × List Char) := do
  let (key, afterKey) ← readKey depthLimit input
  let (value, rest) ← readValue (skipBlank (← after? '=' afterKey))
  return ((key, value), rest)

/-- Read the assignments in braces and the closing brace.  The bound on their number is met by the length of
the input. -/
def readMembers (readValue : ValueReader) :
    (bound : Nat) → List Char → Option (List (KeyPath × Value) × List Char)
  | 0, _ => none
  | bound + 1, input => do
    let (assignment, after) ← readAssignment readValue input
    match skipBlank after with
    | ',' :: more =>
      (readMembers readValue bound more).map fun (assignments, rest) => (assignment :: assignments, rest)
    | '\x7d' :: rest => return ([assignment], rest)
    | _ => none

def readBraces (readValue : ValueReader) (input : List Char) : Option (Value × List Char) := do
  let (assignments, rest) ← match skipBlank input with
    | '\x7d' :: rest => some ([], rest)
    | start => readMembers readValue start.length start
  return (← ofAssignments assignments, rest)

/-- Read a value that holds no others. -/
def readSingle (input : List Char) : Option (Value × List Char) :=
  match input with
  | 't' :: 'r' :: 'u' :: 'e' :: rest => some (.bool true, rest)
  | 'f' :: 'a' :: 'l' :: 's' :: 'e' :: rest => some (.bool false, rest)
  | '"' :: _ | '\x27' :: _ => (readString input).map fun (text, rest) => (.text text, rest)
  | _ =>
    match skipDateTime input with
    | some rest => some (.dateTime, rest)
    | none => readNumber input

/-- Read a value of a limited depth. -/
def readValue : (depth : Nat) → ValueReader
  | 0, input => readSingle input
  | depth + 1, input =>
    match input with
    | '[' :: rest =>
      (readItems (readValue depth) (rest.length + 1) rest).map fun (items, after) => (.array items, after)
    | '\x7b' :: rest => readBraces (readValue depth) rest
    | _ => readSingle input

/-- What follows a line that ends here, perhaps after a comment. -/
def endLine? (input : List Char) : Option (List Char) :=
  let uncommented := match skipBlank input with
    | '#' :: comment => skipPlain comment
    | other => other
  match uncommented with
  | [] => some []
  | '\n' :: rest | '\r' :: '\n' :: rest => some rest
  | _ => none

/-- Read a definition from its first character to the end of its line. -/
def readDefinition (input : List Char) : Option (Definition × List Char) := do
  match input with
  | '[' :: '[' :: start => do
    let (key, afterKey) ← readKey depthLimit start
    return (.element key, ← endLine? (← after? ']' (← after? ']' afterKey)))
  | '[' :: start => do
    let (key, afterKey) ← readKey depthLimit start
    return (.header key, ← endLine? (← after? ']' afterKey))
  | start => do
    let ((key, value), rest) ← readAssignment (readValue depthLimit) start
    return (.assignment key value, ← endLine? rest)

/-- Read all definitions.  The bound on their number is met by the length of the input. -/
def readDefinitions : (bound : Nat) → List Char → Option (List Definition)
  | 0, _ => none
  | bound + 1, input =>
    match skipLines input with
    | [] => some []
    | start => do
      let (definition, rest) ← readDefinition start
      return definition :: (← readDefinitions bound rest)

/-- Read a document; a byte order mark in front of it is passed over. -/
def ofText (text : String) : Option Entries :=
  let input := match text.toList with
    | '\ufeff' :: rest => rest
    | all => all
  readDefinitions (input.length + 1) input >>= ofDefinitions

end Toml
end NodeKeys
