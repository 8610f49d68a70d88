import NodeKeys.Diagnostic.Combining
import NodeKeys.Diagnostic.Invisible

/-!
# Diagnostic renderings

Values shown in log lines and messages for a developer are written on one line: a record as its name
and its fields in braces, a wrapped value as its name and the value in parentheses, a sequence in
brackets, a table in braces.  A record that keeps some of its fields to itself ends in two dots.

Text is quoted.  Whatever a terminal would not show as a character of its own is written by its code
point, so a diagnostic is always one line, and a combining character never joins the quote before it.
-/

namespace NodeKeys
namespace Diagnostic

/-- Whether a character is written by its code point. -/
def isHidden (symbol : Char) : Bool :=
  let code := symbol.toNat
  let within (ranges : List (Nat × Nat)) : Bool :=
    ranges.any fun (first, last) => first ≤ code && code ≤ last
  if code < 0x7f then code < 0x20
  else within invisibleRanges || within combiningRanges || fillers.contains code

def escaped (symbol : Char) : List Char :=
  match symbol with
  | '"' => ['\\', '"']
  | '\\' => ['\\', '\\']
  | '\n' => ['\\', 'n']
  | '\r' => ['\\', 'r']
  | '\t' => ['\\', 't']
  | '\x00' => ['\\', '0']
  | other =>
    if isHidden other then
      ['\\', 'u', '\x7b'] ++ Nat.toDigits 16 other.toNat ++ ['\x7d']
    else [other]

def quoted (text : String) : String :=
  String.ofList ('"' :: text.toList.flatMap escaped ++ ['"'])

def bool (value : Bool) : String :=
  if value then "true" else "false"

def option : Option String → String
  | none => "None"
  | some shown => "Some(" ++ shown ++ ")"

def tuple (name : String) (values : List String) : String :=
  name ++ "(" ++ ", ".intercalate values ++ ")"

private def labelled (field : String × String) : String :=
  field.1 ++ ": " ++ field.2

def record (name : String) (fields : List (String × String)) : String :=
  name ++ " \x7b " ++ ", ".intercalate (fields.map labelled) ++ " \x7d"

/-- A record of which only these fields are shown. -/
def openRecord (name : String) (fields : List (String × String)) : String :=
  name ++ " \x7b " ++ ", ".intercalate (fields.map labelled ++ [".."]) ++ " \x7d"

def sequence (values : List String) : String :=
  "[" ++ ", ".intercalate values ++ "]"

def table (entries : List (String × String)) : String :=
  "\x7b" ++ ", ".intercalate (entries.map fun (key, value) => quoted key ++ ": " ++ value) ++ "\x7d"

end Diagnostic
end NodeKeys
