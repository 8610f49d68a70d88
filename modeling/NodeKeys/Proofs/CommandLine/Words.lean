import NodeKeys.Proofs.CommandLine.KeyWords

/-!
# Commands as words

Every command can be written as words in one plain way, and read back from them.  The exception is a command with
a key text that begins with a hyphen: its words are refused, and the error is that of an option.

Reading goes word by word.  A word that names a command leads to the level below, and nothing comes back from
there but what was read; any other word changes what its level was given.
-/

namespace NodeKeys
namespace CommandLine

/-! ## The words of a command -/

/-- The words that ask for JSON, or for none. -/
def jsonWords (json : Bool) : List String :=
  if json then ["--json"] else []

def Command.words : Command → List String
  | mldsa65 none json => "mldsa65" :: jsonWords json
  | mldsa65 (some text) json => "mldsa65" :: "--seed" :: text :: jsonWords json
  | publicKey privateKey => ["x25519", "public", privateKey]
  | transportKeys json => "x25519" :: "generate" :: jsonWords json

/-- The key text among the words of a command. -/
def Command.keyText? : Command → Option String
  | mldsa65 seed _ => seed
  | publicKey privateKey => some privateKey
  | transportKeys _ => none

/-- The error if the key text of a command is taken for an option. -/
def Command.refusal : Command → UsageError
  | mldsa65 (some text) _ => if text.toList[1]? = some 'h' then .invalidValue else .unknownArgument
  | publicKey privateKey => if privateKey.toList[1]? = some 'h' then .displayHelp else .unknownArgument
  | mldsa65 none _ | transportKeys _ => .unknownArgument

/-! ## Word by word -/

theorem Given.enclose_nothing (below : Invocation) : ({} : Given).enclose below = .ok below := by
  have config : below.config.or none = below.config := Option.or_none
  change Except.ok { below with config := below.config.or none } = _
  rw [config]

/-- A command leads to the level below. -/
theorem parseLevel_of_command {level below : Level} {word : String} (named : level.command? word = some below)
    (explains : below ≠ .help) (rest : List String) :
    parseLevel level {} false (word :: rest) = parseLevel below {} false rest := by
  have nothingWaits : ({} : Given).waiting?.isSome = false := rfl
  rw [parseLevel]
  simp only [nothingWaits, named, Bool.false_eq_true, if_false, Given.enclose_nothing]
  exact bind_pure _

/-- Any other word is taken by its level. -/
theorem parseLevel_of_word {level : Level} {given : Given} {word : String}
    (noCommand : given.waiting?.isSome = true ∨ level.command? word = none) (rest : List String) :
    parseLevel level given false (word :: rest) =
      given.take level word >>= fun next =>
        parseLevel level next (Word.ofText word == .separator) rest := by
  rw [parseLevel]
  rcases noCommand with waits | unknown
  · simp only [waits, if_true, Bool.false_eq_true, if_false]
  · simp only [unknown, ite_self, Bool.false_eq_true, if_false]

theorem parse_mldsa65 (rest : List String) :
    parse ("mldsa65" :: rest) = parseLevel .mldsa65 {} false rest :=
  parseLevel_of_command rfl (by decide) rest

theorem parse_x25519 {below : Level} {word : String} (named : Level.x25519.command? word = some below)
    (explains : below ≠ .help) (rest : List String) :
    parse ("x25519" :: word :: rest) = parseLevel below {} false rest :=
  (parseLevel_of_command rfl (by decide) (word :: rest)).trans (parseLevel_of_command named explains rest)

/-- The word after the option for a seed is read with that option open. -/
theorem parse_seed (text : String) (rest : List String) :
    parse ("mldsa65" :: "--seed" :: text :: rest) =
      ({ unfinished := some ⟨.seed, none⟩ } : Given).take .mldsa65 text >>= fun next =>
        parseLevel .mldsa65 next (Word.ofText text == .separator) rest := by
  have opened : ({} : Given).take .mldsa65 "--seed" = .ok { unfinished := some ⟨.seed, none⟩ } := rfl
  have waits : ({ unfinished := some ⟨.seed, none⟩ } : Given).waiting?.isSome = true := rfl
  rw [parse_mldsa65, parseLevel_of_word (Or.inr rfl), opened]
  exact parseLevel_of_word (Or.inl waits) rest

theorem parse_privateKey (text : String) :
    parse ["x25519", "public", text] =
      ({} : Given).take .publicKey text >>= fun next =>
        parseLevel .publicKey next (Word.ofText text == .separator) [] := by
  rw [parse_x25519 rfl (by decide)]
  exact parseLevel_of_word (Or.inr rfl) []

/-! ## Whole commands -/

/-- The words of a command are read as that command. -/
theorem parse_words {command : Command}
    (plainly : ∀ text, command.keyText? = some text → ¬ Hyphenated text) :
    parse command.words = .ok ⟨none, command⟩ := by
  cases command with
  | mldsa65 seed json =>
    cases seed with
    | none => cases json <;> rfl
    | some text =>
      have isPlain : Word.ofText text = .plain := Word.ofText_of_not_hyphenated (plainly text rfl)
      have taken : ({ unfinished := some ⟨.seed, none⟩ } : Given).take .mldsa65 text =
          .ok { unfinished := some ⟨.seed, some text⟩ } := by
        rw [Given.take, isPlain]
        rfl
      rw [Command.words, parse_seed, taken, isPlain]
      cases json <;> rfl
  | publicKey privateKey =>
    have isPlain : Word.ofText privateKey = .plain := Word.ofText_of_not_hyphenated (plainly privateKey rfl)
    have taken : ({} : Given).take .publicKey privateKey = .ok { privateKey := some privateKey } := by
      rw [Given.take, isPlain]
      rfl
    rw [Command.words, parse_privateKey, taken, isPlain]
    rfl
  | transportKeys json => cases json <;> rfl

/-- Only a second letter `h` makes a difference to the error. -/
theorem Command.refusal_of_not_help {command : Command} {text : String}
    (given : command.keyText? = some text) (noHelp : text.toList[1]? ≠ some 'h') :
    command.refusal = .unknownArgument := by
  cases command with
  | mldsa65 seed json =>
    cases given
    exact if_neg noHelp
  | publicKey privateKey =>
    cases given
    exact if_neg noHelp
  | transportKeys json => cases given

/-- The words of a command whose key text begins with a hyphen are refused. -/
theorem parse_words_of_hyphenated {command : Command} {text : String}
    (given : command.keyText? = some text) {bytes : List UInt8}
    (read : Base64Url.decode text = .ok bytes) (sized : bytes.length = 32) (hyphenated : Hyphenated text) :
    parse command.words = .error command.refusal := by
  cases command with
  | mldsa65 seed json =>
    cases given
    rw [Command.words, parse_seed, take_hyphenated read sized hyphenated _ (by decide), Command.refusal]
    split <;> rfl
  | publicKey privateKey =>
    cases given
    rw [Command.words, parse_privateKey, take_hyphenated read sized hyphenated _ (by decide),
      Command.refusal]
    split <;> rfl
  | transportKeys json => cases given

end CommandLine
end NodeKeys
