import NodeKeys.Proofs.Builtin
import NodeKeys.Proofs.CommandLine.Output
import NodeKeys.Proofs.CommandLine.Words

/-!
# The command line and the library on key text

A command that is given a key text does what the library does with that text and writes the result, whatever the
configuration says, so long as it can be loaded.  Nothing but the result is written, because neither loading nor
deriving writes anything.

But a key text may begin with a hyphen, and then the command line does not get as far as the library.  This is
so for the keys that the program itself makes if their first byte is one of four.
-/

namespace NodeKeys

open Loader Run

variable {σ : Type}

namespace CommandLine

/-! ## Carrying out -/

/-- The run succeeds, and this is what it writes. -/
def Writes (run : Run σ (Except Failure Unit × Loaders σ)) (world : World σ) (text : String) : Prop :=
  (run world).value.1 = .ok () ∧ Event.output (run world).events = text

/-- What is silent may come first. -/
theorem writes_bind {β : Type} {first : Run σ β} {next : β → Run σ (Except Failure Unit × Loaders σ)}
    {world : World σ} {text : String} (silent : Shows Event.isSilent first)
    (writes : Writes (next (first world).value) (first world).world text) :
    Writes (first >>= next) world text := by
  refine ⟨writes.1, ?_⟩
  rw [bind_apply, Event.output_append, Event.output_eq_empty (silent world), String.empty_append]
  exact writes.2

variable {draw : σ → Seed × σ} {loaders : Loaders σ}

theorem writes_mldsa65 (builtin : Builtin.IsBuiltin draw (loaders .processWide)) {seed? : Option String}
    {entropy : Entropy} {seed : Seed} {text : String} (readable : requestedSeed seed? entropy = .ok (seed, text))
    (json : Bool) (config : Config) (world : World σ) :
    Writes ((Command.mldsa65 seed? json).execute config entropy loaders) world
      (showSigningKeys (.seeded text (Builtin.verificationKey seed)) json) := by
  have generated := (Builtin.generate_of_isBuiltin
    ⟨.processWide, .ofSettings config.mldsa65⟩ builtin readable world).1
  exact (delivers_mldsa65 seed? json).succeeded _ generated

theorem writes_publicKey {privateKey publicKey : String} {world : World σ}
    (accepted : (TransportKeys.publicKeyOf privateKey world).value = .ok publicKey) (config : Config)
    (entropy : Entropy) (loaders : Loaders σ) :
    Writes ((Command.publicKey privateKey).execute config entropy loaders) world (publicKey ++ "\n") :=
  (delivers_publicKey privateKey).succeeded publicKey accepted

theorem writes_transportKeys {entropy : Entropy} {keys : TransportKeys} {world : World σ}
    (made : (TransportKeys.generate entropy world).value = .ok keys) (json : Bool) (config : Config)
    (loaders : Loaders σ) :
    Writes ((Command.transportKeys json).execute config entropy loaders) world (showTransportKeys keys json) :=
  (delivers_transportKeys json).succeeded keys made

/-! ## From the words to the output -/

/-- What a command line is carried out in. -/
structure Surroundings (σ : Type) where
  environment : Environment
  files : FileView
  entropy : Entropy
  loaders : Loaders σ
  world : World σ

namespace Surroundings

def Configured (surroundings : Surroundings σ) : Prop :=
  ∃ config, Config.load surroundings.environment surroundings.files none = .ok config

/-- The configuration can be loaded, there is randomness to be had, and the loader of the process is one over the
packages that come with the program. -/
structure Ready (surroundings : Surroundings σ) (draw : σ → Seed × σ) : Prop where
  configured : surroundings.Configured
  available : surroundings.entropy.probe = .ok ()
  builtin : Builtin.IsBuiltin draw (surroundings.loaders .processWide)

/-- These words are understood and carried out, and this is what is written. -/
def Prints (surroundings : Surroundings σ) (words : List String) (text : String) : Prop :=
  ∃ invocation, parse words = .ok invocation ∧
    Writes (invocation.execute surroundings.environment surroundings.files surroundings.entropy
      surroundings.loaders) surroundings.world text

variable {surroundings : Surroundings σ}

/-- A command that is understood is carried out under the configuration that is there. -/
theorem prints_words (configured : surroundings.Configured) {command : Command}
    (plainly : ∀ text, command.keyText? = some text → ¬ Hyphenated text) {text : String}
    (writes : ∀ config, Writes (command.execute config surroundings.entropy surroundings.loaders)
      surroundings.world text) :
    surroundings.Prints command.words text := by
  rcases configured with ⟨config, loaded⟩
  refine ⟨⟨none, command⟩, parse_words plainly, ?_⟩
  rw [Invocation.execute, loaded]
  exact writes_bind (shows_emit rfl) (writes config)

/-- A command with a key text prints what it writes unless the text begins with a hyphen. -/
theorem prints_words_iff (configured : surroundings.Configured) {command : Command} {keyText : String}
    (given : command.keyText? = some keyText) {bytes : List UInt8}
    (read : Base64Url.decode keyText = .ok bytes) (sized : bytes.length = 32) {text : String}
    (writes : ∀ config, Writes (command.execute config surroundings.entropy surroundings.loaders)
      surroundings.world text) :
    (surroundings.Prints command.words text ↔ ¬ Hyphenated keyText) ∧
      (Hyphenated keyText → parse command.words = .error command.refusal) := by
  have refused := parse_words_of_hyphenated given read sized
  refine ⟨⟨?printed, ?plainly⟩, refused⟩
  case printed =>
    rintro ⟨invocation, understood, _⟩ hyphenated
    rw [refused hyphenated] at understood
    cases understood
  case plainly =>
    intro plainly
    apply prints_words configured _ writes
    intro other same
    rw [given] at same
    cases same
    exact plainly

variable {draw : σ → Seed × σ}

theorem prints_seed_iff (ready : surroundings.Ready draw) {text : String} {seed : Seed}
    (readable : Seed.ofText text = .ok seed) (json : Bool) :
    let command := Command.mldsa65 (some text) json
    (surroundings.Prints command.words (showSigningKeys (.seeded text (Builtin.verificationKey seed)) json) ↔
      ¬ Hyphenated text) ∧
    (Hyphenated text → parse command.words = .error command.refusal) := by
  intro command
  have given : command.keyText? = some text := rfl
  have requested := requestedSeed_some ready.available readable
  exact prints_words_iff ready.configured given (Seed.decode_of_ofText readable) seed.length_bytes
    fun config => writes_mldsa65 ready.builtin requested json config surroundings.world

theorem prints_privateKey_iff (configured : surroundings.Configured) {text publicKey : String}
    {world : World σ} (accepted : (TransportKeys.publicKeyOf text world).value = .ok publicKey) :
    let command := Command.publicKey text
    (surroundings.Prints command.words (publicKey ++ "\n") ↔ ¬ Hyphenated text) ∧
    (Hyphenated text → parse command.words = .error command.refusal) := by
  intro command
  have given : command.keyText? = some text := rfl
  rcases TransportKeys.decode_of_publicKeyOf accepted with ⟨bytes, read, sized⟩
  rw [TransportKeys.value_publicKeyOf text world surroundings.world] at accepted
  exact prints_words_iff configured given read sized
    fun config => writes_publicKey accepted config surroundings.entropy surroundings.loaders

end Surroundings

/-! ## Keys of the program -/

/-- The first byte is one of the four whose text begins with a hyphen. -/
def LeadsWithHyphen (seed : Seed) : Prop :=
  ∃ first ∈ seed.bytes.head?, 248 ≤ first.toNat ∧ first.toNat < 252

theorem hyphenated_text (seed : Seed) : Hyphenated seed.text ↔ LeadsWithHyphen seed := by
  rcases seed with ⟨bytes, sized⟩
  cases bytes with
  | nil => cases sized
  | cons first rest =>
    have encoded := hyphenated_encode first rest
    constructor
    · intro hyphenated
      exact ⟨first, rfl, encoded.mp hyphenated⟩
    · rintro ⟨other, same, bounds⟩
      cases same
      exact encoded.mpr bounds

/-- A key text that the library accepts is carried out and its public half printed, as the library gives it, if
and only if the text does not begin with a hyphen; otherwise it is refused as an option.  Keys that are made
without a key text are always printed, unless the random bytes for them cannot be drawn.  Their private half can be
handed back, at any later time and in any surroundings, if and only if its first byte is none of the four. -/
theorem key_text_is_printed_unless_hyphenated {draw : σ → Seed × σ} {surroundings : Surroundings σ}
    (ready : surroundings.Ready draw) :
    (∀ text seed, Seed.ofText text = .ok seed →
      let keys := SigningKeys.seeded text (Builtin.verificationKey seed)
      (∀ library : Surroundings σ, library.Ready draw →
        (({} : Generator).generate (some text) library.entropy library.loaders library.world).value.1 =
          .ok keys) ∧
      ∀ json,
        (surroundings.Prints (["mldsa65", "--seed", text] ++ jsonWords json) (showSigningKeys keys json) ↔
          ¬ Hyphenated text) ∧
        (Hyphenated text → parse (["mldsa65", "--seed", text] ++ jsonWords json) =
          .error (if text.toList[1]? = some 'h' then .invalidValue else .unknownArgument))) ∧
    (∀ text publicKey, ∀ world : World σ,
      (TransportKeys.publicKeyOf text world).value = .ok publicKey →
      (surroundings.Prints ["x25519", "public", text] (publicKey ++ "\n") ↔ ¬ Hyphenated text) ∧
      (Hyphenated text → parse ["x25519", "public", text] =
        .error (if text.toList[1]? = some 'h' then .displayHelp else .unknownArgument))) ∧
    ∀ drawn, surroundings.entropy.bytes = .ok drawn →
      (∀ json,
        let keys := SigningKeys.seeded drawn.text (Builtin.verificationKey drawn)
        surroundings.Prints (["mldsa65"] ++ jsonWords json) (showSigningKeys keys json) ∧
        ∀ later : Surroundings σ, later.Ready draw → ∀ again,
          (later.Prints (["mldsa65", "--seed", keys.seed] ++ jsonWords again) (showSigningKeys keys again) ↔
            ¬ LeadsWithHyphen drawn)) ∧
      ∃ keys, (TransportKeys.generate surroundings.entropy surroundings.world).value = .ok keys ∧
        (∀ json, surroundings.Prints (["x25519", "generate"] ++ jsonWords json) (showTransportKeys keys json)) ∧
        ∀ later : Surroundings σ, later.Ready draw →
          (later.Prints ["x25519", "public", keys.privateKey] (keys.publicKey ++ "\n") ↔
            ¬ LeadsWithHyphen drawn) := by
  refine ⟨?seeds, ?privateKeys, fun drawn given => ⟨?signing, ?transport⟩⟩
  case seeds =>
    intro text seed readable keys
    constructor
    · intro library readyLibrary
      have requested := requestedSeed_some readyLibrary.available readable
      exact (Builtin.generate_of_isBuiltin {} readyLibrary.builtin requested library.world).1
    · intro json
      exact Surroundings.prints_seed_iff ready readable json
  case privateKeys =>
    intro text publicKey world accepted
    exact Surroundings.prints_privateKey_iff ready.configured accepted
  case signing =>
    intro json keys
    have unseeded := requestedSeed_drawn ready.available given
    constructor
    · have noText (text : String) (given : (Command.mldsa65 none json).keyText? = some text) :
          ¬ Hyphenated text := nomatch given
      exact Surroundings.prints_words ready.configured noText fun config =>
        writes_mldsa65 ready.builtin unseeded json config surroundings.world
    · intro later readyLater again
      rw [← hyphenated_text]
      exact (Surroundings.prints_seed_iff readyLater drawn.ofText_text again).1
  case transport =>
    rcases TransportKeys.generate_of_bytes given surroundings.world with ⟨keys, made, privateKey, _, accepted⟩
    refine ⟨keys, made, fun json => ?_, fun later readyLater => ?_⟩
    · have noText (text : String) (given : (Command.transportKeys json).keyText? = some text) :
          ¬ Hyphenated text := nomatch given
      exact Surroundings.prints_words ready.configured noText fun config =>
        writes_transportKeys made json config surroundings.loaders
    · rw [← hyphenated_text, ← privateKey]
      exact (Surroundings.prints_privateKey_iff readyLater.configured (accepted later.world)).1

/-- A fresh process without a configuration file that draws these bytes. -/
def freshProcess (drawn : Seed) : Surroundings Unit where
  environment := { get? := fun _ => none }
  files := { read := fun _ => .error .missing, isFile := fun _ => false }
  entropy := .giving drawn
  loaders := fun _ => Builtin.loader fun state => (drawn, state)
  world := { state := () }

/-- A private key of zeros is printed and can be handed back; one that begins with the byte 251 is printed and
cannot. -/
theorem key_text_is_printed_unless_hyphenated_fresh :
    let zeros : Seed := ⟨List.replicate 32 0, rfl⟩
    let high : Seed := ⟨251 :: List.replicate 31 0, rfl⟩
    let draw := fun state : Unit => (zeros, state)
    let publicKey (drawn : Seed) := Base64Url.encode (Curve25519.publicKey drawn.bytes)
    (freshProcess zeros).Ready draw ∧
    (freshProcess zeros).Prints ["x25519", "public", zeros.text] (publicKey zeros ++ "\n") ∧
    ¬ (freshProcess zeros).Prints ["x25519", "public", high.text] (publicKey high ++ "\n") := by
  intro zeros high draw publicKey
  have ready : (freshProcess zeros).Ready draw := ⟨⟨{}, rfl⟩, rfl, Builtin.isBuiltin_loader draw⟩
  have readyHigh : { freshProcess zeros with entropy := .giving high }.Ready draw :=
    ⟨⟨{}, rfl⟩, rfl, Builtin.isBuiltin_loader draw⟩
  have low : ¬ LeadsWithHyphen zeros := by
    rintro ⟨first, same, atLeast, _⟩
    cases same
    exact absurd atLeast (by decide)
  have leads : LeadsWithHyphen high := ⟨251, rfl, by decide, by decide⟩
  rcases ((key_text_is_printed_unless_hyphenated ready).2.2 zeros rfl).2 with ⟨keys, made, _, back⟩
  rcases ((key_text_is_printed_unless_hyphenated readyHigh).2.2 high rfl).2 with ⟨_, madeHigh, _, backHigh⟩
  cases made
  cases madeHigh
  exact ⟨ready, (back _ ready).mpr low, fun printed => (backHigh _ ready).mp printed leads⟩

/-- A text that the library accepts as a private key and as a seed, and the command line as neither. -/
theorem accepted_key_text_is_refused :
    let text := "-wdtCnMYpX08FsFyUbJmRd9ML4frwJkqsXf7pR25LCo"
    (∃ publicKey, ∀ world : World Unit, (TransportKeys.publicKeyOf text world).value = .ok publicKey) ∧
    parse ["x25519", "public", text] = .error .unknownArgument ∧
    (∃ seed, Seed.ofText text = .ok seed) ∧
    parse ["mldsa65", "--seed", text] = .error .unknownArgument := by
  intro text
  have hyphenated : Hyphenated text := by decide
  have noHelp : text.toList[1]? ≠ some 'h' := by decide
  have length : (Base64Url.decode text).toOption.map List.length = some 32 := by decide +kernel
  cases read : Base64Url.decode text with
  | error error =>
    rw [read] at length
    cases length
  | ok bytes =>
    rw [read] at length
    have sized : bytes.length = 32 := Option.some.inj length
    have keyText : (Command.publicKey text).keyText? = some text := rfl
    have seedText : (Command.mldsa65 (some text) false).keyText? = some text := rfl
    have refusedKey := parse_words_of_hyphenated keyText read sized hyphenated
    have refusedSeed := parse_words_of_hyphenated seedText read sized hyphenated
    rw [Command.refusal_of_not_help keyText noHelp] at refusedKey
    rw [Command.refusal_of_not_help seedText noHelp] at refusedSeed
    have isSeed : Seed.ofText text = .ok ⟨bytes, sized⟩ := Seed.ofText_of_decode read sized
    refine ⟨⟨Base64Url.encode (Curve25519.publicKey bytes), fun world => ?_⟩, refusedKey, ⟨_, isSeed⟩,
      refusedSeed⟩
    rw [TransportKeys.publicKeyOf_of_decode read sized, Run.pure_apply]

end CommandLine
end NodeKeys
