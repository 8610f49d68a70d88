import NodeKeys.CommandLine.Execute
import NodeKeys.Proofs.Generation.KeyTexts
import NodeKeys.Proofs.Json.RoundTrip

/-!
# What a command writes

A command writes once, behind everything that can fail, and what it writes depends on the result and on the form
that was asked for.  So a failure has written nothing, and the two forms of a key pair are those of the same keys.
The plain one is two lines, because no key text that is read holds a line break; the other one reads back as the
texts on these lines.
-/

namespace NodeKeys

open Loader Run

variable {σ : Type}

/-! ## What writes nothing -/

namespace Event

def isSilent : Event → Bool
  | written _ => false
  | imported _ | called _ _ | logged _ => true

theorem output_eq_empty {events : List Event} (silent : ∀ event ∈ events, event.isSilent) :
    output events = "" := by
  induction events with
  | nil => rfl
  | cons event rest inductionHypothesis =>
    rcases List.forall_mem_cons.mp silent with ⟨first, later⟩
    cases event with
    | written text => cases first
    | imported specifier => exact inductionHypothesis later
    | called factory argument => exact inductionHypothesis later
    | logged line => exact inductionHypothesis later

theorem isSilent_of_ofAttempt {event : Event} (attempted : event.ofAttempt) : event.isSilent := by
  cases event <;> first | rfl | cases attempted

theorem isSilent_of_ofDerivation {event : Event} (derived : event.ofDerivation) : event.isSilent := by
  cases event <;> first | rfl | cases derived

end Event

theorem Generator.shows_generate (generator : Generator) (text? : Option String) (entropy : Entropy)
    (loaders : Loaders σ) : Shows Event.isSilent (generator.generate text? entropy loaders) := by
  have whole : Shows Event.isSilent
      ((loaders generator.loader).generate generator.policy text? entropy) := by
    unfold Loader.generate
    split
    · exact shows_pure _
    · refine shows_bind ((shows_load _).mono Event.isSilent_of_ofAttempt) fun loading => ?_
      rcases loading with ⟨outcome, loaded⟩
      cases outcome with
      | error error => exact shows_pure _
      | ok handle =>
        refine shows_bind ((shows_generateOn _ _ _ _).mono Event.isSilent_of_ofDerivation) fun _ => ?_
        exact shows_pure _
  exact shows_bind whole fun _ => shows_pure _

namespace TransportKeys

theorem shows_publicKeyOf (privateKey : String) :
    Shows Event.isSilent (publicKeyOf privateKey : Run σ (Except KeygenError String)) := by
  unfold publicKeyOf
  split
  · exact shows_bind (shows_emit rfl) fun _ => shows_pure _
  · exact shows_pure _

theorem shows_generate (entropy : Entropy) :
    Shows Event.isSilent (generate entropy : Run σ (Except KeygenError TransportKeys)) := by
  unfold generate
  split
  · exact shows_pure _
  · exact shows_bind (shows_emit rfl) fun _ => shows_pure _

end TransportKeys

namespace CommandLine

/-! ## Results -/

/-- A run that writes what was made behind everything else, or fails with the error and writes nothing. -/
structure Delivers {α : Type} (made : Except KeygenError α) (fail : KeygenError → Failure) (render : α → String)
    (ending : Ending σ (Except Failure Unit × Loaders σ)) : Prop where
  failed : ∀ error, made = .error error →
    ending.value.1 = .error (fail error) ∧ ∀ event ∈ ending.events, event.isSilent
  succeeded : ∀ value, made = .ok value →
    ending.value.1 = .ok () ∧ Event.output ending.events = render value

namespace Delivers

variable {α : Type} {made : Except KeygenError α} {fail : KeygenError → Failure} {render : α → String}
  {ending : Ending σ (Except Failure Unit × Loaders σ)}

theorem silent_of_error (delivers : Delivers made fail render ending) {failure : Failure}
    (failed : ending.value.1 = .error failure) : ∀ event ∈ ending.events, event.isSilent := by
  cases made with
  | error error => exact (delivers.failed error rfl).2
  | ok value =>
    rw [(delivers.succeeded value rfl).1] at failed
    cases failed

/-- What is silent may come first. -/
theorem bind {β : Type} {first : Run σ β} {next : β → Run σ (Except Failure Unit × Loaders σ)}
    {world : World σ} (silent : Shows Event.isSilent first)
    (delivers : Delivers made fail render (next (first world).value (first world).world)) :
    Delivers made fail render ((first >>= next) world) where
  failed := by
    intro error same
    rcases delivers.failed error same with ⟨value, quiet⟩
    refine ⟨value, fun event member => ?_⟩
    rw [bind_apply] at member
    exact (List.mem_append.mp member).elim (silent world event) (quiet event)
  succeeded := by
    intro value same
    rcases delivers.succeeded value same with ⟨done, written⟩
    refine ⟨done, ?_⟩
    rw [bind_apply, Event.output_append, Event.output_eq_empty (silent world), String.empty_append]
    exact written

end Delivers

theorem delivers_writeResult {α : Type} (fail : KeygenError → Failure) (render : α → String)
    (made : Except KeygenError α) (after : Loaders σ) (world : World σ) :
    Delivers made fail render
      ((do
        let ending ← writeResult fail render made
        return (ending, after) : Run σ (Except Failure Unit × Loaders σ)) world) := by
  cases made with
  | error error =>
    constructor
    · intro cause same
      cases same
      exact ⟨rfl, fun _ impossible => nomatch impossible⟩
    · intro value impossible
      cases impossible
  | ok value =>
    constructor
    · intro error impossible
      cases impossible
    · intro other same
      cases same
      refine ⟨rfl, ?_⟩
      change render value ++ "" = render value
      exact String.append_empty

/-! ## Commands -/

section Commands

variable {config : Config} {entropy : Entropy} {loaders : Loaders σ} {world : World σ}

theorem delivers_mldsa65 (seed? : Option String) (json : Bool) :
    Delivers (Generator.generate ⟨.processWide, .ofSettings config.mldsa65⟩ seed? entropy loaders world).value.1
      .signingKeys (showSigningKeys · json)
      ((Command.mldsa65 seed? json).execute config entropy loaders world) := by
  have request : ((Command.mldsa65 seed? json).execute config entropy loaders) =
      Generator.generate ⟨.processWide, .ofSettings config.mldsa65⟩ seed? entropy loaders >>= fun made => do
        let ending ← writeResult .signingKeys (showSigningKeys · json) made.1
        return (ending, made.2) := by
    cases seed? <;> rfl
  rw [request]
  exact .bind (Generator.shows_generate _ _ _ _) (delivers_writeResult _ _ _ _ _)

theorem delivers_publicKey (privateKey : String) :
    Delivers (TransportKeys.publicKeyOf privateKey world).value .publicKey (· ++ "\n")
      ((Command.publicKey privateKey).execute config entropy loaders world) :=
  .bind (TransportKeys.shows_publicKeyOf privateKey) (delivers_writeResult _ _ _ _ _)

theorem delivers_transportKeys (json : Bool) :
    Delivers (TransportKeyBuilder.keyPair {} entropy world).value .transportKeys (showTransportKeys · json)
      ((Command.transportKeys json).execute config entropy loaders world) :=
  .bind (TransportKeys.shows_generate entropy) (delivers_writeResult _ _ _ _ _)

end Commands

section Invocations

variable {config? : Option String} {environment : Environment} {files : FileView} {command : Command}
  {entropy : Entropy} {loaders : Loaders σ} {world : World σ}

theorem execute_of_unloaded {error : ConfigError} (unloaded : Config.load environment files config? = .error error) :
    (Invocation.mk config? command).execute environment files entropy loaders world =
      ⟨(.error (.config error), loaders), world, []⟩ := by
  rw [Invocation.execute, unloaded]
  rfl

theorem delivers_of_loaded {config : Config} (loaded : Config.load environment files config? = .ok config)
    {α : Type} {made : Except KeygenError α} {fail : KeygenError → Failure} {render : α → String}
    (delivers : Delivers made fail render (command.execute config entropy loaders world)) :
    Delivers made fail render
      ((Invocation.mk config? command).execute environment files entropy loaders world) := by
  rw [Invocation.execute, loaded]
  exact .bind (shows_emit rfl) delivers

end Invocations

/-! ## The two forms of a key pair -/

/-- One form is two lines with these texts, which hold neither white space nor line breaks; the other form is an
object that reads back as it should. -/
structure TwoForms (shape : Json.RecordShape) (reads : String → Prop) (first second plain json : String) :
    Prop where
  solid_first : Base64Url.Solid first
  solid_second : Base64Url.Solid second
  plain : plain = shape.first ++ ": " ++ first ++ "\n" ++ (shape.second ++ ": " ++ second ++ "\n")
  json : ∃ object inside, json = object ++ "\n" ∧ object.toList = '\x7b' :: inside ++ ['\x7d'] ∧ reads object

theorem twoForms_signingKeys {generator : Generator} {seed? : Option String} {entropy : Entropy}
    {loaders : Loaders σ} {world : World σ} {keys : SigningKeys}
    (given : (generator.generate seed? entropy loaders world).value.1 = .ok keys) :
    TwoForms SigningKeys.shape (SigningKeys.ofJson · = .ok ⟨keys.seed, keys.verify, true⟩) keys.seed keys.verify
      (showSigningKeys keys false) (showSigningKeys keys true) := by
  rcases Generator.texts_of_generate given with ⟨_, ⟨seed, readable⟩, publicKey, written⟩
  rcases Json.toList_pretty keys.seed keys.verify with ⟨inside, closed⟩
  have solidVerify := Base64Url.solid_encode publicKey
  rw [← written] at solidVerify
  exact ⟨Base64Url.solid_of_decode (Seed.decode_of_ofText readable), solidVerify, rfl, _, inside, rfl, closed,
    keys.ofJson_toPrettyJson⟩

theorem twoForms_transportKeys {builder : TransportKeyBuilder} {entropy : Entropy} {world : World σ}
    {keys : TransportKeys} (given : (builder.keyPair entropy world).value = .ok keys) :
    TwoForms TransportKeys.shape (TransportKeys.ofJson · = .ok keys) keys.privateKey keys.publicKey
      (showTransportKeys keys false) (showTransportKeys keys true) := by
  rcases (builder.value_keyPair_eq_ok_iff entropy world keys).mp given with ⟨_, bytes, read, _, written⟩
  rcases Json.toList_pretty keys.privateKey keys.publicKey with ⟨inside, closed⟩
  have solidPublic := Base64Url.solid_encode (Curve25519.publicKey bytes)
  rw [← written] at solidPublic
  exact ⟨Base64Url.solid_of_decode read, solidPublic, rfl, _, inside, rfl, closed,
    TransportKeys.ofJson_toPrettyJson keys⟩

/-- A command, in either form, that fails with the error or shows the two texts of the keys that were made. -/
structure ShowsPair {α : Type} (made : Except KeygenError α) (fail : KeygenError → Failure)
    (shape : Json.RecordShape) (first second : α → String) (reads : α → String → Prop)
    (run : (json : Bool) → Ending σ (Except Failure Unit × Loaders σ)) : Prop where
  failed : ∀ error, made = .error error → ∀ json, (run json).value.1 = .error (fail error)
  succeeded : ∀ keys, made = .ok keys → ∀ json, (run json).value.1 = .ok ()
  shown : ∀ keys, made = .ok keys →
    TwoForms shape (reads keys) (first keys) (second keys) (Event.output (run false).events)
      (Event.output (run true).events)

theorem showsPair_of_delivers {α : Type} {made : Except KeygenError α} {fail : KeygenError → Failure}
    {render : α → Bool → String} {run : (json : Bool) → Ending σ (Except Failure Unit × Loaders σ)}
    (delivers : ∀ json, Delivers made fail (render · json) (run json)) {shape : Json.RecordShape}
    {first second : α → String} {reads : α → String → Prop}
    (forms : ∀ keys, made = .ok keys →
      TwoForms shape (reads keys) (first keys) (second keys) (render keys false) (render keys true)) :
    ShowsPair made fail shape first second reads run where
  failed := fun error failed json => ((delivers json).failed error failed).1
  succeeded := fun keys given json => ((delivers json).succeeded keys given).1
  shown := by
    intro keys given
    rw [((delivers false).succeeded keys given).2, ((delivers true).succeeded keys given).2]
    exact forms keys given

/-! ## Whole invocations -/

/-- An invocation that fails, wherever it does, has written nothing.  Once the configuration is loaded, a command
fails exactly if the library does, with the error of the library, and otherwise shows what the library has made: a
public key as a single line; a key pair, whichever it is, as two lines with its two texts, or as an object that reads
back as the same texts.  A seed is shown as it was given.  In particular a command that needs randomness fails if
there is none. -/
theorem output_is_all_or_nothing (config? : Option String) (environment : Environment) (files : FileView)
    (entropy : Entropy) (loaders : Loaders σ) (world : World σ) :
    let run (command : Command) :=
      (Invocation.mk config? command).execute environment files entropy loaders world
    (∀ command failure, (run command).value.1 = .error failure →
      ∀ text, Event.written text ∉ (run command).events) ∧
    (∀ error, Config.load environment files config? = .error error →
      ∀ command, (run command).value.1 = .error (.config error)) ∧
    ∀ config, Config.load environment files config? = .ok config →
      (∀ privateKey,
        let made := (TransportKeys.publicKeyOf privateKey world).value
        let shown := run (.publicKey privateKey)
        (∀ error, made = .error error → shown.value.1 = .error (.publicKey error)) ∧
        ∀ publicKey, made = .ok publicKey →
          shown.value.1 = .ok () ∧ Base64Url.Solid publicKey ∧ Event.output shown.events = publicKey ++ "\n") ∧
      (∀ seed?,
        let made := (Generator.generate ⟨.processWide, .ofSettings config.mldsa65⟩ seed? entropy loaders
          world).value.1
        ShowsPair made .signingKeys SigningKeys.shape SigningKeys.seed SigningKeys.verify
          (fun keys object => SigningKeys.ofJson object = .ok ⟨keys.seed, keys.verify, true⟩)
          (fun json => run (.mldsa65 seed? json)) ∧
        (∀ keys, made = .ok keys → entropy.textOr seed? = .ok keys.seed) ∧
        (∀ reason, entropy.probe = .error reason →
          made = .error (.environment ("no secure random source: " ++ reason))) ∧
        ∀ reason, entropy.probe = .ok () → entropy.bytes = .error reason → seed? = none →
          made = .error (.environment ("secure random source failed: " ++ reason))) ∧
      let made := (TransportKeyBuilder.keyPair {} entropy world).value
      ShowsPair made .transportKeys TransportKeys.shape TransportKeys.privateKey TransportKeys.publicKey
        (fun keys object => TransportKeys.ofJson object = .ok keys) (fun json => run (.transportKeys json)) ∧
      (∀ keys, made = .ok keys → entropy.textOr none = .ok keys.privateKey) ∧
      ∀ reason, entropy.bytes = .error reason →
        made = .error (.environment ("secure random source failed: " ++ reason)) := by
  intro run
  have single {config : Config} (loaded : Config.load environment files config? = .ok config)
      (privateKey : String) :
      Delivers (TransportKeys.publicKeyOf privateKey world).value .publicKey (· ++ "\n")
        (run (.publicKey privateKey)) :=
    delivers_of_loaded loaded (delivers_publicKey privateKey)
  have signing {config : Config} (loaded : Config.load environment files config? = .ok config)
      (seed? : Option String) (json : Bool) :
      Delivers (Generator.generate ⟨.processWide, .ofSettings config.mldsa65⟩ seed? entropy loaders world).value.1
        .signingKeys (showSigningKeys · json) (run (.mldsa65 seed? json)) :=
    delivers_of_loaded loaded (delivers_mldsa65 seed? json)
  have transport {config : Config} (loaded : Config.load environment files config? = .ok config) (json : Bool) :
      Delivers (TransportKeyBuilder.keyPair {} entropy world).value .transportKeys (showTransportKeys · json)
        (run (.transportKeys json)) :=
    delivers_of_loaded loaded (delivers_transportKeys json)
  refine ⟨?failures, ?unloaded, fun config loaded => ⟨?publicKey, ?signingKeys, ?transportKeys⟩⟩
  case failures =>
    intro command failure failed text written
    cases loading : Config.load environment files config? with
    | error error =>
      have nothing : (run command).events = [] := congrArg Ending.events (execute_of_unloaded loading)
      rw [nothing] at written
      cases written
    | ok config =>
      have silent : ∀ event ∈ (run command).events, event.isSilent := by
        cases command with
        | mldsa65 seed? json => exact (signing loading seed? json).silent_of_error failed
        | publicKey privateKey => exact (single loading privateKey).silent_of_error failed
        | transportKeys json => exact (transport loading json).silent_of_error failed
      cases silent _ written
  case unloaded =>
    intro error unloaded command
    have ended : run command = _ := execute_of_unloaded unloaded
    rw [ended]
  case publicKey =>
    intro privateKey made shown
    have delivers := single loaded privateKey
    refine ⟨fun error failed => (delivers.failed _ failed).1, fun publicKey accepted => ?_⟩
    rcases delivers.succeeded publicKey accepted with ⟨done, written⟩
    rcases (TransportKeys.value_publicKeyOf_eq_ok_iff privateKey publicKey world).mp accepted with
      ⟨bytes, _, _, rfl⟩
    exact ⟨done, Base64Url.solid_encode _, written⟩
  case signingKeys =>
    intro seed? made
    have refused {error : KeygenError} (refusal : requestedSeed seed? entropy = .error error) :
        made = .error error :=
      congrArg (·.value.1) (congrFun (Generator.generate_of_refused _ refusal loaders) world)
    refine ⟨showsPair_of_delivers (signing loaded seed?) fun _ => twoForms_signingKeys, ?used, ?unavailable,
      ?undrawn⟩
    case used =>
      intro keys given
      exact (Generator.texts_of_generate given).1
    case unavailable =>
      intro reason unavailable
      exact refused (requestedSeed_of_unavailable unavailable)
    case undrawn =>
      rintro reason available undrawn rfl
      exact refused (requestedSeed_undrawn available undrawn)
  case transportKeys =>
    intro made
    refine ⟨showsPair_of_delivers (transport loaded) fun _ => twoForms_transportKeys, ?used, ?undrawn⟩
    case used =>
      intro keys given
      exact ((TransportKeyBuilder.value_keyPair_eq_ok_iff {} entropy world keys).mp given).1
    case undrawn =>
      intro reason undrawn
      exact congrArg Ending.value (congrFun (TransportKeys.generate_of_error undrawn) world)

/-- Without a configuration file, transport keys are made if there is randomness, and only then; the empty text is no
private key. -/
theorem output_is_all_or_nothing_unconfigured :
    let environment : Environment := { get? := fun _ => none }
    let files : FileView := { read := fun _ => .error .missing, isFile := fun _ => false }
    let nowhere : Source Unit := { start := fun _ state => (⟨0, fun later => (.ok none, later)⟩, state) }
    let run (entropy : Entropy) (command : Command) := (Invocation.mk none command).execute environment files entropy
      (fun _ => { source := nowhere, steps := [] }) ⟨(), 0⟩
    let random : Seed := ⟨List.replicate 32 7, rfl⟩
    let keys : TransportKeys := ⟨random.text, Base64Url.encode (Curve25519.publicKey random.bytes)⟩
    let broken : Entropy := ⟨.error "no device", .error "no device"⟩
    Config.load environment files none = .ok {} ∧
    TwoForms TransportKeys.shape (TransportKeys.ofJson · = .ok keys) keys.privateKey keys.publicKey
      (Event.output (run (.giving random) (.transportKeys false)).events)
      (Event.output (run (.giving random) (.transportKeys true)).events) ∧
    (run broken (.transportKeys false)).value.1 =
      .error (.transportKeys (.environment "secure random source failed: no device")) ∧
    (∀ text, Event.written text ∉ (run broken (.transportKeys false)).events) ∧
    (run broken (.publicKey "")).value.1 = .error (.publicKey (.invalidKey "invalid private key")) ∧
      ∀ text, Event.written text ∉ (run broken (.publicKey "")).events := by
  intro environment files nowhere run random keys broken
  have loaded : Config.load environment files none = .ok {} := rfl
  have decided (entropy : Entropy) := output_is_all_or_nothing none environment files entropy
    (fun _ => { source := nowhere, steps := [] }) ⟨(), 0⟩
  rcases ((decided broken).2.2 {} loaded).2.2 with ⟨failing, _, undrawn⟩
  have unmade := failing.failed _ (undrawn "no device" rfl) false
  have refused := (((decided broken).2.2 {} loaded).1 "").1 (.invalidKey "invalid private key") rfl
  have made := ((decided (.giving random)).2.2 {} loaded).2.2.1.shown keys rfl
  exact ⟨loaded, made, unmade, (decided broken).1 _ _ unmade, refused, (decided broken).1 _ _ refused⟩

end CommandLine
end NodeKeys
