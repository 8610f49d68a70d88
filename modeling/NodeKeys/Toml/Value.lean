import NodeKeys.Decimal.Shortest
import NodeKeys.Mismatch
import NodeKeys.Table

/-!
# TOML values

A document is a table.  Tables remember how they were written, because this decides what a later line may
add to them.  Of a date or time only that it is one is kept.
-/

namespace NodeKeys
namespace Toml

/-- How a table was written. -/
inductive Origin where
  /-- A header names it. -/
  | header
  /-- A header names a table inside it. -/
  | implied
  /-- A dotted key passes through it. -/
  | dotted
  /-- It is a value in braces. -/
  | braced
  deriving DecidableEq, Repr

/-- A value. -/
inductive Value where
  | text (content : String)
  | integer (number : Int)
  | float (number : Float)
  | bool (flag : Bool)
  | dateTime
  | array (items : List Value)
  /-- The tables that headers in double brackets have made under one name. -/
  | tables (elements : List (List (String × Value)))
  | table (origin : Origin) (entries : List (String × Value))

/-- What a table holds. -/
abbrev Entries : Type := List (String × Value)

/-- A finite number in positional notation, of two equally short and near ones the larger, or a word for any
other. -/
def floatText (number : Float) : String :=
  if number.isNaN then "NaN"
  else
    let digits :=
      if number.isInf then "inf".toList else Decimal.positional (Decimal.shortest .up number)
    String.ofList (if Decimal.isNegative number then '-' :: digits else digits)

/-- The value as it is named in errors.  A date or time counts as a table. -/
def Value.found : Value → Found
  | text content => .text content
  | integer number => .integer number
  | float number => .float (floatText number)
  | bool flag => .bool flag
  | array _ | tables _ => .sequence
  | dateTime | table _ _ => .map

end Toml
end NodeKeys
