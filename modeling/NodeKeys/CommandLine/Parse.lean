import NodeKeys.CommandLine.Grammar

/-!
# Reading a command line

The words are read from left to right, level by level.  An option whose value is the next word is not
finished until the next option comes or the level ends; only then is its value looked at.  A command ends its
level, and everything after it belongs to the level below, whose errors come first.

A word that looks like an option is never taken as a value or argument, except after two hyphens alone.
-/

namespace NodeKeys
namespace CommandLine

/-- An option whose value has not been looked at yet. -/
structure Unfinished where
  option : ValueOption
  value : Option String
  deriving DecidableEq, Repr

/-- What a level has been given so far. -/
structure Given where
  config : Option String := none
  seed : Option String := none
  json : Bool := false
  privateKey : Option String := none
  unfinished : Option Unfinished := none
  deriving DecidableEq, Repr

namespace Given

def value? (given : Given) : ValueOption → Option String
  | .config => given.config
  | .seed => given.seed

def setValue (given : Given) (option : ValueOption) (value : String) : Given :=
  match option with
  | .config => { given with config := some value }
  | .seed => { given with seed := some value }

/-- Look at the value of an option.  It has to be there and to be the first one, and a path is not empty. -/
def accept (given : Given) (option : ValueOption) (value : Option String) :
    Except UsageError Given :=
  match value with
  | none => .error .invalidValue
  | some text =>
    if (given.value? option).isSome then .error .conflict
    else if option = .config && text.isEmpty then .error .invalidValue
    else .ok (given.setValue option text)

def finish (given : Given) : Except UsageError Given :=
  match given.unfinished with
  | none => .ok given
  | some ⟨option, value⟩ => { given with unfinished := none }.accept option value

def raise (given : Given) (flag : Flag) : Except UsageError Given := do
  let finished ← given.finish
  match flag with
  | .help => throw .displayHelp
  | .version => throw .displayVersion
  | .json => if finished.json then throw .conflict else return { finished with json := true }

def switch (given : Given) (switch : Switch) (value : Option String) : Except UsageError Given := do
  match switch, value with
  | .flag flag, none => given.raise flag
  | .flag _, some _ => throw .tooManyValues
  | .option option, some text => (← given.finish).accept option (some text)
  | .option option, none => return { ← given.finish with unfinished := some ⟨option, none⟩ }

/-- The option that the next word is the value of. -/
def waiting? (given : Given) : Option ValueOption :=
  match given.unfinished with
  | some ⟨option, none⟩ => some option
  | _ => none

/-- Take a word as an argument of a level.  Only one level has an argument, and it has one. -/
def argument (given : Given) (level : Level) (separated : Bool) (word : String) :
    Except UsageError Given :=
  if level = .publicKey then
    match given.privateKey with
    | none => given.finish.map fun finished => { finished with privateKey := some word }
    | some _ => .error .unknownArgument
  else if separated && (level.command? word).isSome then .error .unknownArgument
  else if level.commands.isEmpty then .error .unknownArgument
  else .error .unknownCommand

/-- What a level amounts to at the end of the command line. -/
def close (given : Given) (level : Level) : Except UsageError Invocation := do
  let finished ← given.finish
  match level with
  | .program | .x25519 =>
    if finished.config.isSome then throw .missingCommand else throw .nothingGiven
  | .mldsa65 => return ⟨finished.config, .mldsa65 finished.seed finished.json⟩
  | .generate => return ⟨finished.config, .transportKeys finished.json⟩
  | .publicKey =>
    match finished.privateKey with
    | some privateKey => return ⟨finished.config, .publicKey privateKey⟩
    | none => throw .missingArgument
  | .help => throw .displayHelp

/-- Add what a level was given to what the levels below it amount to.  The configuration file that is named
furthest down counts. -/
def enclose (given : Given) (below : Invocation) : Except UsageError Invocation := do
  let finished ← given.finish
  return { below with config := below.config.or finished.config }

end Given

/-- Explain the command that these words lead to. -/
def explain (level : Level) : List String → UsageError
  | [] => .displayHelp
  | name :: rest =>
    match level.command? name with
    | some below => explain below rest
    | none => .unknownCommand

/-- Take a word that names no command, before the separator. -/
def Given.take (given : Given) (level : Level) (word : String) : Except UsageError Given :=
  match Word.ofText word with
  | .separator => .ok given
  | .long name value =>
    match level.switch? name with
    | some switch => given.switch switch value
    | none => .error .unknownArgument
  | .short letter =>
    match level.flag? letter with
    | some flag => given.raise flag
    | none => .error .unknownArgument
  | .plain =>
    match given.waiting? with
    | some option => .ok { given with unfinished := some ⟨option, some word⟩ }
    | none => given.argument level false word

/-- Read the words of a level and of those below it.  After the separator all words are arguments. -/
def parseLevel (level : Level) (given : Given) (separated : Bool) :
    List String → Except UsageError Invocation
  | [] => given.close level
  | word :: rest =>
    if separated then do
      parseLevel level (← given.argument level true word) true rest
    else
      match if given.waiting?.isSome then none else level.command? word with
      | some .help => .error (explain level rest)
      | some below => do given.enclose (← parseLevel below {} false rest)
      | none => do parseLevel level (← given.take level word) (Word.ofText word == .separator) rest

/-- Read a command line, without the name of the program. -/
def parse (arguments : List String) : Except UsageError Invocation :=
  parseLevel .program {} false arguments

end CommandLine
end NodeKeys
