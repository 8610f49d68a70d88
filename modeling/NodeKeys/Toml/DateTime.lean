/-!
# TOML dates and times

A date, a time, or both with or without an offset.  They are checked against the calendar and the clock, where a
minute may have sixty-one seconds, and nothing of them is kept.

Every reader returns what follows.
-/

namespace NodeKeys
namespace Toml

/-- The number that exactly this many digits spell. -/
def fixedDigits? (count : Nat) (input : List Char) : Option (Nat × List Char) :=
  let digits := input.take count
  if digits.length = count && digits.all Char.isDigit then
    some (digits.foldl (fun value digit => 10 * value + (digit.toNat - 48)) 0, input.drop count)
  else none

/-- Two digits whose number lies between two others. -/
def twoDigits? (low high : Nat) (input : List Char) : Option (Nat × List Char) := do
  let (value, rest) ← fixedDigits? 2 input
  if low ≤ value && value ≤ high then return (value, rest) else none

/-- What follows a character. -/
def after? (symbol : Char) : List Char → Option (List Char)
  | first :: rest => if first = symbol then some rest else none
  | [] => none

def isLeapYear (year : Nat) : Bool :=
  year % 4 == 0 && (year % 100 != 0 || year % 400 == 0)

def daysIn (year month : Nat) : Nat :=
  if month = 2 then if isLeapYear year then 29 else 28
  else if month ∈ [4, 6, 9, 11] then 30
  else 31

def skipDate (input : List Char) : Option (List Char) := do
  let (year, afterYear) ← fixedDigits? 4 input
  let (month, afterMonth) ← twoDigits? 1 12 (← after? '-' afterYear)
  let (_, rest) ← twoDigits? 1 (daysIn year month) (← after? '-' afterMonth)
  return rest

/-- What follows the hours and minutes of a time or of an offset. -/
def skipClock (input : List Char) : Option (List Char) := do
  let (_, afterHour) ← twoDigits? 0 23 input
  let (_, rest) ← twoDigits? 0 59 (← after? ':' afterHour)
  return rest

def skipTime (input : List Char) : Option (List Char) := do
  let (_, rest) ← twoDigits? 0 60 (← after? ':' (← skipClock input))
  match rest with
  | '.' :: digit :: more => return if digit.isDigit then more.dropWhile Char.isDigit else rest
  | _ => return rest

/-- What follows an offset, if one stands here. -/
def skipOffset (input : List Char) : List Char :=
  match input with
  | 'Z' :: rest | 'z' :: rest => rest
  | '+' :: rest | '-' :: rest => (skipClock rest).getD input
  | _ => input

/-- What follows the time and offset of a date, if they stand here. -/
def skipTimeOfDay (input : List Char) : List Char :=
  match input with
  | 'T' :: rest | 't' :: rest | ' ' :: rest =>
    match skipTime rest with
    | some after => skipOffset after
    | none => input
  | _ => input

def skipDateTime (input : List Char) : Option (List Char) :=
  match skipDate input with
  | some rest => some (skipTimeOfDay rest)
  | none => skipTime input

end Toml
end NodeKeys
