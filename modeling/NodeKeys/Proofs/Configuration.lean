import NodeKeys.Builder
import NodeKeys.Config.Load
import NodeKeys.Proofs.Generation.Stages

/-!
# Which configuration counts

A configuration can be in three places, of which a higher one hides the lower ones, whether or not anything can
be read there.  Nothing that goes wrong with the file in the place that counts leads back to the defaults: the
defaults allow the fallback, so a strict setting would be lost without a sign.

What a document says is said by the one setting in it.  The statement about documents is for those whose
settings are a table or absent; how the table is written, and what else stands in the document, does not matter.

Reading TOML and looking at files are taken as they are.  That keys are then made under the policy that was
loaded is said of whole runs: with the fallback denied, every call of a factory passes the seed.
-/

namespace NodeKeys

variable {σ : Type}

/-! ## Places -/

/-- The file that counts: the one that is named explicitly, else the one that the variable names, whatever that
is, else the one in the default place if a file is there. -/
inductive Environment.Designates (environment : Environment) (files : FileView) :
    Option String → String → Prop
  | named (path : String) : Designates environment files (some path) path
  | configured {path : String} (set : environment.get? configVariable = some path) :
      Designates environment files none path
  | standard {path : String} (unset : environment.get? configVariable = none)
      (place : environment.defaultPath? = some path) (present : files.isFile path = true) :
      Designates environment files none path

theorem Environment.designatedFile?_eq_some_iff (environment : Environment) (files : FileView)
    (explicit : Option String) (path : String) :
    environment.designatedFile? files explicit = some path ↔ environment.Designates files explicit path := by
  cases explicit with
  | some chosen =>
    constructor
    · intro found
      cases found
      exact .named path
    · intro designates
      cases designates
      rfl
  | none =>
    cases set : environment.get? configVariable with
    | some value =>
      have found : environment.designatedFile? files none = some value := by
        simp only [designatedFile?, set]
      rw [found]
      constructor
      · intro same
        cases same
        exact .configured set
      · intro designates
        cases designates with
        | configured own => rw [← own, set]
        | standard unset => rw [unset] at set; cases set
    | none =>
      have found : environment.designatedFile? files none = environment.defaultPath?.filter files.isFile := by
        simp only [designatedFile?, set]
      rw [found, Option.filter_eq_some_iff]
      constructor
      · rintro ⟨place, present⟩
        exact .standard set place present
      · intro designates
        cases designates with
        | configured own => rw [own] at set; cases set
        | standard _ place present => exact ⟨place, present⟩

namespace Config

variable {environment : Environment} {files : FileView} {explicit : Option String} {path : String}

theorem load_of_designates (designates : environment.Designates files explicit path) :
    load environment files explicit = ofFile files path := by
  have found := (environment.designatedFile?_eq_some_iff files explicit path).mpr designates
  rw [load, found]

theorem designatedFile?_of_nowhere (nowhere : ∀ path, ¬ environment.Designates files explicit path) :
    environment.designatedFile? files explicit = none := by
  apply Option.eq_none_iff_forall_ne_some.mpr
  intro path found
  exact nowhere path ((environment.designatedFile?_eq_some_iff files explicit path).mp found)

theorem load_of_nowhere (nowhere : ∀ path, ¬ environment.Designates files explicit path) :
    load environment files explicit = .ok {} := by
  rw [load, designatedFile?_of_nowhere nowhere]

/-! ## Files -/

theorem ofFile_of_unreadable {fault : ReadFault} (unreadable : files.readText path = .error fault) :
    ofFile files path = .error (.read path fault) := by
  rw [ofFile, unreadable]
  rfl

theorem ofFile_of_readable {text : String} (readable : files.readText path = .ok text) :
    ofFile files path = (ofToml text).mapError (.parse path) := by
  rw [ofFile, readable]
  rfl

theorem ofFile_congr {others : FileView} (same : files.read path = others.read path) :
    ofFile files path = ofFile others path := by
  have text : files.readText path = others.readText path := by
    rw [FileView.readText, FileView.readText, same]
  rw [ofFile, ofFile, text]

/-- Loading looks at nothing but the content of the file that counts. -/
theorem load_congr {other : Environment} {others : FileView} {otherwise : Option String}
    (samePlace : ∀ path, environment.Designates files explicit path ↔ other.Designates others otherwise path)
    (sameContent : ∀ path, environment.Designates files explicit path → files.read path = others.read path) :
    load environment files explicit = load other others otherwise := by
  by_cases somewhere : ∃ path, environment.Designates files explicit path
  · rcases somewhere with ⟨path, designates⟩
    rw [load_of_designates designates, load_of_designates ((samePlace path).mp designates)]
    exact ofFile_congr (sameContent path designates)
  · have nowhere := not_exists.mp somewhere
    rw [load_of_nowhere nowhere, load_of_nowhere]
    intro path designates
    exact nowhere path ((samePlace path).mpr designates)

/-! ## Documents -/

/-- The settings in a document are absent or a table. -/
def HasSettingsTable (entries : Toml.Entries) : Prop :=
  Table.find? settingsName entries = none ∨
    ∃ origin inner, Table.find? settingsName entries = some (.table origin inner)

def setting? (entries : Toml.Entries) : Option Toml.Value :=
  match Table.find? settingsName entries with
  | some (.table _ inner) => Table.find? Settings.flagName inner
  | _ => none

/-- Such a document is decided by the one setting in it. -/
theorem ofEntries_of_settingsTable {entries : Toml.Entries} (plain : HasSettingsTable entries) :
    ofEntries entries =
      match setting? entries with
      | none => .ok {}
      | some value => (flagOfValue value).map fun flag => ⟨⟨flag⟩⟩ := by
  rcases plain with absent | ⟨origin, inner, held⟩
  · rw [ofEntries, setting?, absent]
  · rw [ofEntries, setting?, held]
    simp only [Settings.ofValue, Settings.ofFlag?]
    cases Table.find? Settings.flagName inner with
    | none => rfl
    | some value => cases value <;> rfl

/-- A configuration is loaded, and it asks for this policy. -/
def AsksFor (loaded : Except ConfigError Config) (policy : FallbackPolicy) : Prop :=
  ∃ config, loaded = .ok config ∧ FallbackPolicy.ofSettings config.mldsa65 = policy

theorem asksFor_ok_iff (config : Config) (policy : FallbackPolicy) :
    AsksFor (.ok config) policy ↔ FallbackPolicy.ofSettings config.mldsa65 = policy := by
  constructor
  · rintro ⟨_, same, asked⟩
    cases same
    exact asked
  · intro asked
    exact ⟨config, rfl, asked⟩

theorem not_asksFor_error (error : ConfigError) (policy : FallbackPolicy) : ¬ AsksFor (.error error) policy := by
  rintro ⟨_, same, _⟩
  cases same

/-- What a readable document with a table of settings comes to, by its one setting. -/
structure Decides (path : String) (setting? : Option Toml.Value) (loaded : Except ConfigError Config) : Prop where
  deny : AsksFor loaded .deny ↔ setting? = some (.bool false)
  allow : AsksFor loaded .allow ↔ setting? = none ∨ setting? = some (.bool true)
  refused : (∃ error, loaded = .error (.parse path error)) ↔
    ∃ value, setting? = some value ∧ ∀ flag, value ≠ .bool flag

theorem decides_of_flag (path : String) (flag : Bool) :
    Decides path (some (.bool flag)) (.ok ⟨⟨flag⟩⟩) := by
  constructor <;> cases flag <;> simp [asksFor_ok_iff, FallbackPolicy.ofSettings]

theorem decides_of_absent (path : String) : Decides path none (.ok {}) := by
  constructor <;> simp [asksFor_ok_iff, FallbackPolicy.ofSettings]

theorem decides_of_other (path : String) {value : Toml.Value} (other : ∀ flag, value ≠ .bool flag)
    (error : DocumentError) : Decides path (some value) (.error (.parse path error)) := by
  constructor
  · simp [not_asksFor_error, other]
  · simp [not_asksFor_error, other]
  · exact ⟨fun _ => ⟨value, rfl, other⟩, fun _ => ⟨error, rfl⟩⟩

theorem decides_ofFile {text : String} {entries : Toml.Entries} (readable : files.readText path = .ok text)
    (valid : Toml.ofText text = some entries) (plain : HasSettingsTable entries) :
    Decides path (setting? entries) (ofFile files path) := by
  rw [ofFile_of_readable readable, ofToml, valid]
  dsimp only
  rw [ofEntries_of_settingsTable plain]
  cases setting? entries with
  | none => exact decides_of_absent path
  | some value =>
    cases value with
    | bool flag => exact decides_of_flag path flag
    -- No other kind of value is taken for a flag, whatever it holds.
    | _ =>
      apply decides_of_other
      intro flag same
      cases same

/-- The table may be made by a dotted key, and other things may stand in the document. -/
example : ofToml "other = [true]\nmldsa65.allow_unseeded_fallback = false # strict\n" = .ok ⟨⟨false⟩⟩ := by
  cbv

end Config

/-! ## Requests under a configuration -/

/-- With the fallback denied, a request passes the seed with every call. -/
theorem Generator.argument_of_deny {generator : Generator} (strict : generator.policy = .deny)
    {text? : Option String} {entropy : Entropy} {loaders : Loaders σ} {world : World σ}
    {call : String × Option Seed}
    (called : call ∈ Event.calls (generator.generate text? entropy loaders world).events) :
    ∃ seed text, requestedSeed text? entropy = .ok (seed, text) ∧ entropy.textOr text? = .ok text ∧
      call.2 = some seed := by
  rw [generate_apply, strict] at called
  cases readable : requestedSeed text? entropy with
  | error error =>
    rw [Loader.generate_of_unreadable readable] at called
    cases called
  | ok requested =>
    rcases requested with ⟨seed, seedText⟩
    have silent := Event.calls_eq_nil ((loaders generator.loader).shows_load world)
    cases loaded : ((loaders generator.loader).load world).value.1 with
    | error error =>
      rw [Loader.generate_of_unloaded readable loaded] at called
      rw [silent] at called
      cases called
    | ok handle =>
      rw [Loader.generate_of_loaded readable loaded, Event.calls_append, silent, List.nil_append,
        calls_generateOn] at called
      rcases CandidateChain.mem_calls_deriveFrom called with ⟨caller, _, allowed, rfl⟩
      exact ⟨seed, seedText, rfl, (requestedSeed_eq_ok_iff.mp readable).2.1,
        if_pos (CandidateChain.takesSeed_of_deny allowed)⟩

/-- With the fallback denied, keys are always bound to their seed. -/
theorem Generator.deterministic_of_deny {generator : Generator} (strict : generator.policy = .deny)
    {text? : Option String} {entropy : Entropy} {loaders : Loaders σ} {world : World σ} {keys : SigningKeys}
    (given : (generator.generate text? entropy loaders world).value.1 = .ok keys) :
    keys.deterministic = true := by
  rcases (generator.value_generate_eq_ok_iff text? entropy loaders world keys).mp given with
    ⟨_, derivation, _, ⟨_, _, _, _, derived⟩, _, rfl⟩
  rw [strict] at derived
  exact CandidateChain.deterministic_of_deny derived

/-- A request under a configuration, with a seed or without one. -/
def Builder.forConfig (config : Config) (seed? : Option String) : Builder :=
  match seed? with
  | some seed => (Builder.ofConfig config).withSeed seed
  | none => Builder.ofConfig config

theorem Builder.generate_forConfig (config : Config) (seed? : Option String) (entropy : Entropy)
    (loaders : Loaders σ) :
    (forConfig config seed?).generate entropy loaders =
      Generator.generate ⟨.processWide, .ofSettings config.mldsa65⟩ seed? entropy loaders := by
  cases seed? <;> rfl

namespace Config

/-- Take any environment, any files and any explicit argument.  If some file counts and cannot be read, this is an
error of reading; if it can be read and is no TOML, it is an error of parsing; and if it is a document whose
settings are a table or absent, the fallback is denied exactly if the one setting is false, allowed exactly if it
is absent or true, and the document is refused exactly if it is anything else.  If no file counts, the fallback
is allowed.  The result is the same wherever the same file with the same content counts.  A request under the
configuration is one under its policy; if it denies the fallback, every call of a factory passes the seed and
the keys are bound to it. -/
theorem strict_configuration_is_kept (environment : Environment) (files : FileView) (explicit : Option String) :
    let loaded := load environment files explicit
    (∀ path, environment.Designates files explicit path →
      (∀ fault, files.readText path = .error fault → loaded = .error (.read path fault)) ∧
      (∀ text, files.readText path = .ok text → Toml.ofText text = none →
        loaded = .error (.parse path .malformed)) ∧
      (∀ text entries, files.readText path = .ok text → Toml.ofText text = some entries →
        HasSettingsTable entries → Decides path (setting? entries) loaded)) ∧
    ((∀ path, ¬ environment.Designates files explicit path) → AsksFor loaded .allow) ∧
    (∀ (other : Environment) (others : FileView) (otherwise : Option String),
      (∀ path, environment.Designates files explicit path ↔ other.Designates others otherwise path) →
      (∀ path, environment.Designates files explicit path → files.read path = others.read path) →
      load other others otherwise = loaded) ∧
    (∀ config, loaded = .ok config → ∀ (seed? : Option String) (entropy : Entropy) (loaders : Loaders σ),
      let request := (Builder.forConfig config seed?).generate entropy loaders
      request = Generator.generate ⟨.processWide, .ofSettings config.mldsa65⟩ seed? entropy loaders ∧
      (AsksFor loaded .deny → ∀ world,
        (∀ call ∈ Event.calls (request world).events, ∃ seed text,
          requestedSeed seed? entropy = .ok (seed, text) ∧ entropy.textOr seed? = .ok text ∧
          call.2 = some seed) ∧
        ∀ keys, (request world).value.1 = .ok keys → keys.deterministic = true)) := by
  intro loaded
  refine ⟨?somewhere, ?nowhere, ?alike, ?requests⟩
  case somewhere =>
    intro path designates
    have fromFile : loaded = ofFile files path := load_of_designates designates
    rw [fromFile]
    refine ⟨fun fault unreadable => ofFile_of_unreadable unreadable, ?malformed, ?document⟩
    case malformed =>
      intro text readable invalid
      rw [ofFile_of_readable readable, ofToml, invalid]
      rfl
    case document =>
      intro text entries readable valid plain
      exact decides_ofFile readable valid plain
  case nowhere =>
    intro nowhere
    exact ⟨{}, load_of_nowhere nowhere, rfl⟩
  case alike =>
    intro other others otherwise samePlace sameContent
    exact (load_congr samePlace sameContent).symm
  case requests =>
    intro config obtained seed? entropy loaders request
    have asked : request = Generator.generate ⟨.processWide, .ofSettings config.mldsa65⟩ seed? entropy loaders :=
      Builder.generate_forConfig config seed? entropy loaders
    refine ⟨asked, ?_⟩
    intro strict world
    rw [obtained, asksFor_ok_iff] at strict
    rw [asked, strict]
    constructor
    · intro call called
      exact Generator.argument_of_deny rfl called
    · intro keys given
      exact Generator.deterministic_of_deny rfl given

end Config
end NodeKeys
