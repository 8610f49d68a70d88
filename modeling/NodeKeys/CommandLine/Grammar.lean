import NodeKeys.Diagnostic

/-!
# Levels, options and words of the command line

The command line has levels: the program itself, and below it commands, some of which have commands of their
own.  Each level has its options.  An option has a name of several letters after two hyphens, and some have
one of a single letter after one hyphen.  A value follows its option as the next word, or after an equals
sign in the same word.
-/

namespace NodeKeys
namespace CommandLine

/-- A place in the command line at which options and commands are read. -/
inductive Level where
  /-- The program itself. -/
  | program
  /-- ML-DSA-65 key generation. -/
  | mldsa65
  /-- The commands about X25519 keys. -/
  | x25519
  /-- The public key of an X25519 private key. -/
  | publicKey
  /-- X25519 key generation. -/
  | generate
  /-- Explanations. -/
  | help
  deriving DecidableEq, Repr

/-- An option with a value. -/
inductive ValueOption where
  /-- The configuration file.  All levels have it. -/
  | config
  /-- The seed of an ML-DSA-65 key pair. -/
  | seed
  deriving DecidableEq, Repr

/-- An option without a value. -/
inductive Flag where
  /-- Write the result as JSON. -/
  | json
  | help
  | version
  deriving DecidableEq, Repr

/-- What an option's name stands for. -/
inductive Switch where
  | option (option : ValueOption)
  | flag (flag : Flag)
  deriving DecidableEq, Repr

namespace Level

def commands : Level → List (String × Level)
  | program => [("mldsa65", mldsa65), ("x25519", x25519), ("help", help)]
  | x25519 => [("public", publicKey), ("generate", generate), ("help", help)]
  | mldsa65 | publicKey | generate | help => []

def command? (level : Level) (name : String) : Option Level :=
  level.commands.lookup name

/-- The options of a level by their long names. -/
def switches (level : Level) : List (String × Switch) :=
  let everywhere := [("config", Switch.option .config), ("help", .flag .help)]
  match level with
  | program => ("version", .flag .version) :: everywhere
  | mldsa65 => ("seed", .option .seed) :: ("json", .flag .json) :: everywhere
  | generate => ("json", .flag .json) :: everywhere
  | x25519 | publicKey | help => everywhere

def switch? (level : Level) (name : String) : Option Switch :=
  level.switches.lookup name

def flag? (level : Level) (letter : Char) : Option Flag :=
  if letter = 'h' then some .help
  else if letter = 'V' && level == program then some .version
  else none

end Level

/-- What kind of word stands in the command line. -/
inductive Word where
  /-- Two hyphens alone: no options follow. -/
  | separator
  /-- An option's long name, and the value after an equals sign. -/
  | long (name : String) (value : Option String)
  /-- Single letters, of which the first counts. -/
  | short (letter : Char)
  /-- A word that does not look like an option. -/
  | plain
  deriving DecidableEq, Repr

namespace Word

def ofLong (content : List Char) : Word :=
  let name := String.ofList (content.takeWhile (· ≠ '='))
  match content.dropWhile (· ≠ '=') with
  | [] => long name none
  | _ :: value => long name (some (String.ofList value))

def ofText (text : String) : Word :=
  match text.toList with
  | ['-', '-'] => separator
  | '-' :: '-' :: content => ofLong content
  | '-' :: letter :: _ => short letter
  | _ => plain

end Word

/-- Why a command line is not carried out.  Some of these are what the user asked for. -/
inductive UsageError where
  /-- Help was asked for. -/
  | displayHelp
  /-- The version was asked for. -/
  | displayVersion
  /-- A level that has commands was given nothing at all. -/
  | nothingGiven
  /-- A level that has commands was given options only. -/
  | missingCommand
  | missingArgument
  | unknownArgument
  | unknownCommand
  /-- A value is missing or not allowed. -/
  | invalidValue
  /-- A flag has a value. -/
  | tooManyValues
  /-- An option was given twice. -/
  | conflict
  deriving DecidableEq, Repr

namespace UsageError

/-- How the process ends.  It is no failure to show what was asked for. -/
def exitCode : UsageError → Nat
  | displayHelp | displayVersion => 0
  | _ => 2

def versionText : String := "panelkey 0.1.0\n"

end UsageError

/-- What is to be done. -/
inductive Command where
  /-- Make ML-DSA-65 keys, from a seed if there is one. -/
  | mldsa65 (seed : Option String) (json : Bool)
  /-- Show the public key of an X25519 private key. -/
  | publicKey (privateKey : String)
  /-- Make X25519 keys. -/
  | transportKeys (json : Bool)
  deriving DecidableEq, Repr

/-- A command line as it was understood. -/
structure Invocation where
  /-- The configuration file. -/
  config : Option String
  command : Command
  deriving DecidableEq, Repr

def Command.diagnostic : Command → String
  | mldsa65 seed json =>
    Diagnostic.record "Mldsa65"
      [("seed", Diagnostic.option (seed.map Diagnostic.quoted)), ("json", Diagnostic.bool json)]
  | publicKey privateKey =>
    Diagnostic.record "X25519"
      [("command", Diagnostic.record "Public" [("private_key", Diagnostic.quoted privateKey)])]
  | transportKeys json =>
    Diagnostic.record "X25519"
      [("command", Diagnostic.record "Generate" [("json", Diagnostic.bool json)])]

def Invocation.diagnostic (invocation : Invocation) : String :=
  Diagnostic.record "Cli"
    [("config", Diagnostic.option (invocation.config.map Diagnostic.quoted)),
     ("command", invocation.command.diagnostic)]

end CommandLine
end NodeKeys
