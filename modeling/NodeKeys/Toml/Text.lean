import NodeKeys.Hex

/-!
# TOML strings

There are four kinds: in quotation marks, where a backslash begins an escape, or in apostrophes, where it
does not; and each of them between single marks, on one line, or between triple marks, on any number of
lines.  A closing triple mark may be preceded by two more marks that belong to the text.

Every reader begins after the opening mark and returns the text and what follows the closing mark.
-/

namespace NodeKeys
namespace Toml

/-- Whether a character may stand in a comment, and in a string unless it is a mark. -/
def isPlain (symbol : Char) : Bool :=
  symbol == '\t' || (32 ≤ symbol.toNat && symbol.toNat ≠ 127)

/-- White space inside a line. -/
def isBlank (symbol : Char) : Bool :=
  symbol == ' ' || symbol == '\t'

def skipBlank (input : List Char) : List Char :=
  input.dropWhile isBlank

theorem length_skipBlank_le (input : List Char) : (skipBlank input).length ≤ input.length :=
  (List.dropWhile_suffix isBlank).length_le

/-- The mark of strings with escapes. -/
def quotationMark : Char := '"'

/-- The mark of strings without escapes. -/
def apostrophe : Char := '\x27'

/-- The character that a letter after a backslash stands for. -/
def letterEscape? : Char → Option Char
  | '"' => some '"'
  | '\\' => some '\\'
  | 'b' => some '\x08'
  | 'f' => some '\x0c'
  | 'n' => some '\n'
  | 'r' => some '\r'
  | 't' => some '\t'
  | _ => none

def codeEscape? (digits : List Char) : Option Char := do
  let code ← digits.foldlM (fun code digit => (Hex.value? digit).map (16 * code + ·)) 0
  if code.isValidChar then return Char.ofNat code else none

/-- The character of an escape whose text after the backslash begins here, and how long that text is. -/
def readEscape : List Char → Option (Char × Nat)
  | 'u' :: rest =>
    if rest.length < 4 then none else (codeEscape? (rest.take 4)).map fun meant => (meant, 5)
  | 'U' :: rest =>
    if rest.length < 8 then none else (codeEscape? (rest.take 8)).map fun meant => (meant, 9)
  | symbol :: _ => (letterEscape? symbol).map fun meant => (meant, 1)
  | [] => none

def prepend (added : List Char) (read : List Char × List Char) : List Char × List Char :=
  (added ++ read.1, read.2)

/-- Read a string of one line with escapes. -/
def readQuoted : List Char → Option (List Char × List Char)
  | [] => none
  | '"' :: rest => some ([], rest)
  | '\\' :: rest => do
    let (meant, size) ← readEscape rest
    (readQuoted (rest.drop size)).map (prepend [meant])
  | symbol :: rest =>
    if isPlain symbol then (readQuoted rest).map (prepend [symbol]) else none
termination_by input => input.length
decreasing_by all_goals simp only [List.length_drop, List.length_cons]; omega

/-- Read a string of one line without escapes. -/
def readLiteral (input : List Char) : Option (List Char × List Char) :=
  let allowed (symbol : Char) : Bool := isPlain symbol && symbol != apostrophe
  match input.dropWhile allowed with
  | [] => none
  | symbol :: rest => if symbol = apostrophe then some (input.takeWhile allowed, rest) else none

def skipSpace : List Char → List Char
  | ' ' :: rest | '\t' :: rest | '\n' :: rest | '\r' :: '\n' :: rest => skipSpace rest
  | other => other

theorem length_skipSpace_le (input : List Char) : (skipSpace input).length ≤ input.length := by
  fun_induction skipSpace input with
  | case5 => exact Nat.le_refl _
  | _ => simp only [List.length_cons]; omega

/-- What follows a backslash at the end of a line: the text goes on at the next character that is no white
space.  None if the line does not end there. -/
def continueLine? (input : List Char) : Option (List Char) :=
  match skipBlank input with
  | '\n' :: rest | '\r' :: '\n' :: rest => some (skipSpace rest)
  | _ => none

theorem length_lt_of_continueLine? {input rest : List Char} (continued : continueLine? input = some rest) :
    rest.length < input.length := by
  have shorter := length_skipBlank_le input
  unfold continueLine? at continued
  split at continued
  case h_1 after blank | h_2 after blank =>
    have kept := length_skipSpace_le after
    obtain rfl := Option.some.inj continued
    rw [blank] at shorter
    simp only [List.length_cons] at shorter
    omega
  case h_3 => cases continued

/-- Read a string of many lines, after the line end that may follow its opening mark.  A line end is a
line feed in the text, however it is written. -/
def readBlock (mark : Char) (escapes : Bool) : List Char → Option (List Char × List Char)
  | [] => none
  | symbol :: rest =>
    if symbol = mark then
      let run := (rest.takeWhile (· == mark)).length + 1
      if run < 3 then
        (readBlock mark escapes (rest.drop (run - 1))).map (prepend (List.replicate run mark))
      else some (List.replicate (min run 5 - 3) mark, rest.drop (min run 5 - 1))
    else if symbol = '\\' && escapes then
      match continued : continueLine? rest with
      | some after =>
        have _shorter := length_lt_of_continueLine? continued
        readBlock mark escapes after
      | none => do
        let (meant, size) ← readEscape rest
        (readBlock mark escapes (rest.drop size)).map (prepend [meant])
    else if symbol = '\n' then (readBlock mark escapes rest).map (prepend ['\n'])
    else if symbol = '\r' then
      match rest with
      | '\n' :: after => (readBlock mark escapes after).map (prepend ['\n'])
      | _ => none
    else if isPlain symbol then (readBlock mark escapes rest).map (prepend [symbol])
    else none
termination_by input => input.length
decreasing_by all_goals simp only [List.length_drop, List.length_cons]; omega

/-- Leave out the line end after the opening mark of a string of many lines. -/
def skipFirstLineEnd : List Char → List Char
  | '\n' :: rest | '\r' :: '\n' :: rest => rest
  | other => other

/-- Read a string of any kind, with its opening mark; none if no string begins here. -/
def readString (input : List Char) : Option (String × List Char) :=
  let read := match input with
    | '"' :: '"' :: '"' :: rest =>
      readBlock quotationMark true (skipFirstLineEnd rest)
    | '"' :: rest => readQuoted rest
    | '\x27' :: '\x27' :: '\x27' :: rest =>
      readBlock apostrophe false (skipFirstLineEnd rest)
    | '\x27' :: rest => readLiteral rest
    | _ => none
  read.map fun (text, rest) => (String.ofList text, rest)

end Toml
end NodeKeys
