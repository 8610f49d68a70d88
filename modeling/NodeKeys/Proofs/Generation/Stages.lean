import NodeKeys.Proofs.Effects
import NodeKeys.Proofs.Entropy

/-!
# The stages of a key generation

A key generation makes sure that there is randomness, reads or draws its seed, loads an implementation, derives a
key pair and extracts its public half.  The first stage that fails decides the answer, and what the stages before
it have done is all that has happened.  Each stage has one lemma for either way in which it can end; the main result
puts them together.

A failure behind the load does not undo the load: the loader keeps its handle, so that a later request on it
starts no import.
-/

namespace NodeKeys

open Loader

variable {σ : Type}

/-! ## Seeds -/

section Requested

variable {text? : Option String} {entropy : Entropy}

theorem requestedSeed_of_unavailable {reason : String} (unavailable : entropy.probe = .error reason) :
    requestedSeed text? entropy = .error (.environment ("no secure random source: " ++ reason)) := by
  simp only [requestedSeed, Entropy.ensure_of_unavailable unavailable]

theorem requestedSeed_given (available : entropy.probe = .ok ()) (text : String) :
    requestedSeed (some text) entropy = (Seed.ofText text).map fun seed => (seed, text) := by
  simp only [requestedSeed, Entropy.ensure_of_probe available]

theorem requestedSeed_none (available : entropy.probe = .ok ()) :
    requestedSeed none entropy = entropy.draw.map fun seed => (seed, seed.text) := by
  simp only [requestedSeed, Entropy.ensure_of_probe available]

theorem requestedSeed_some {text : String} {seed : Seed} (available : entropy.probe = .ok ())
    (readable : Seed.ofText text = .ok seed) : requestedSeed (some text) entropy = .ok (seed, text) := by
  rw [requestedSeed_given available, readable]
  rfl

theorem requestedSeed_drawn {drawn : Seed} (available : entropy.probe = .ok ())
    (given : entropy.bytes = .ok drawn) : requestedSeed none entropy = .ok (drawn, drawn.text) := by
  rw [requestedSeed_none available, Entropy.draw_of_bytes given]
  rfl

theorem requestedSeed_undrawn {reason : String} (available : entropy.probe = .ok ())
    (undrawn : entropy.bytes = .error reason) :
    requestedSeed none entropy = .error (.environment ("secure random source failed: " ++ reason)) := by
  rw [requestedSeed_none available, Entropy.draw_of_error undrawn]
  rfl

/-- The text of a seed is the one that was given, or that of the random bytes, and it holds the seed. -/
theorem requestedSeed_eq_ok_iff {seed : Seed} {seedText : String} :
    requestedSeed text? entropy = .ok (seed, seedText) ↔
      entropy.probe = .ok () ∧ entropy.textOr text? = .ok seedText ∧ Seed.ofText seedText = .ok seed := by
  constructor
  · intro requested
    cases available : entropy.probe with
    | error reason =>
      rw [requestedSeed_of_unavailable available] at requested
      cases requested
    | ok =>
      refine ⟨rfl, ?_⟩
      cases text? with
      | none =>
        rw [requestedSeed_none available] at requested
        rcases map_eq_ok requested with ⟨drawn, given, same⟩
        cases same
        exact ⟨Entropy.textOr_none_eq_ok_iff.mpr ⟨seed, Entropy.draw_eq_ok_iff.mp given, rfl⟩, seed.ofText_text⟩
      | some text =>
        rw [requestedSeed_given available] at requested
        rcases map_eq_ok requested with ⟨other, readable, same⟩
        cases same
        exact ⟨rfl, readable⟩
  · rintro ⟨available, texts, readable⟩
    cases text? with
    | none =>
      rcases Entropy.textOr_none_eq_ok_iff.mp texts with ⟨drawn, given, rfl⟩
      rw [drawn.ofText_text] at readable
      cases readable
      exact requestedSeed_drawn available given
    | some text =>
      cases texts
      exact requestedSeed_some available readable

end Requested

/-! ## Loading -/

namespace Loader

variable {loader : Loader σ}

theorem load_of_settled {outcome : Outcome σ} (settled : loader.cell = some outcome) :
    loader.load = pure (outcome, loader) := by
  rw [load, settled]

/-- A loader keeps whatever a load of it returns. -/
theorem cell_load (loader : Loader σ) (world : World σ) :
    (loader.load world).value.2.cell = some (loader.load world).value.1 := by
  unfold load
  cases kept : loader.cell with
  | some outcome => exact kept
  | none => rfl

end Loader

/-! ## Derivation and extraction -/

/-- What the last stage answers depends on the key pair alone. -/
theorem value_publish (seedText : String) (derivation : Derivation) (world : World σ) :
    (publish seedText derivation world).value = derivation.raw.extractPublicKey.map fun publicKey =>
      ⟨seedText, Base64Url.encode publicKey, derivation.deterministic⟩ := by
  unfold publish
  cases derivation.raw.extractPublicKey with
  | error error => rfl
  | ok publicKey => rfl

section AfterLoad

variable {handle : Module σ} {policy : FallbackPolicy} {seed : Seed} {seedText : String}
  {world : World σ}

theorem generateOn_of_underived {error : KeygenError}
    (underived : ((CandidateChain.forHandle handle policy).derive seed world).value = .error error) :
    generateOn handle policy seed seedText world =
      ⟨.error error, ((CandidateChain.forHandle handle policy).derive seed world).world,
        ((CandidateChain.forHandle handle policy).derive seed world).events⟩ := by
  rw [generateOn, Run.bind_apply, underived]
  simp only [Run.pure_apply, List.append_nil]

theorem generateOn_of_unextractable {derivation : Derivation} {error : KeygenError}
    (derived : ((CandidateChain.forHandle handle policy).derive seed world).value = .ok derivation)
    (unextractable : derivation.raw.extractPublicKey = .error error) :
    generateOn handle policy seed seedText world =
      ⟨.error error, ((CandidateChain.forHandle handle policy).derive seed world).world,
        ((CandidateChain.forHandle handle policy).derive seed world).events⟩ := by
  rw [generateOn, Run.bind_apply, derived]
  simp only [publish, unextractable, Run.pure_apply, List.append_nil]

theorem generateOn_of_extracted {derivation : Derivation} {publicKey : List UInt8}
    (derived : ((CandidateChain.forHandle handle policy).derive seed world).value = .ok derivation)
    (extracted : derivation.raw.extractPublicKey = .ok publicKey) :
    generateOn handle policy seed seedText world =
      ⟨.ok ⟨seedText, Base64Url.encode publicKey, derivation.deterministic⟩,
        ((CandidateChain.forHandle handle policy).derive seed world).world,
        ((CandidateChain.forHandle handle policy).derive seed world).events ++
          [.logged (.generated "ML-DSA-65" publicKey derivation.deterministic),
            .logged (.producedBy derivation.factory)]⟩ := by
  rw [generateOn, Run.bind_apply, derived]
  simp only [publish, extracted, Run.bind_apply, Run.pure_apply, Run.log_apply]
  rfl

/-- Extraction calls no factory. -/
theorem calls_generateOn (handle : Module σ) (policy : FallbackPolicy) (seed : Seed) (seedText : String)
    (world : World σ) :
    Event.calls (generateOn handle policy seed seedText world).events =
      Event.calls ((CandidateChain.forHandle handle policy).derive seed world).events := by
  cases derived : ((CandidateChain.forHandle handle policy).derive seed world).value with
  | error error => rw [generateOn_of_underived derived]
  | ok derivation =>
    cases extracted : derivation.raw.extractPublicKey with
    | error error => rw [generateOn_of_unextractable derived extracted]
    | ok publicKey =>
      rw [generateOn_of_extracted derived extracted, Event.calls_append]
      exact List.append_nil _

/-- The factory that made a key pair is one that the module exports, and the last one that was called. -/
theorem derive_winner {derivation : Derivation}
    (derived : ((CandidateChain.forHandle handle policy).derive seed world).value = .ok derivation) :
    ∃ factory, handle.factory? derivation.factory = some factory ∧
      derivation.deterministic = factory.takesSeed ∧
      (Event.calls ((CandidateChain.forHandle handle policy).derive seed world).events).getLast? =
        some (derivation.factory, if factory.takesSeed then some seed else none) := by
  rcases CandidateChain.deriveFrom_ok derived with ⟨_, candidate, member, _, name, bound, last⟩
  rw [name]
  exact ⟨candidate.factory, (mem_candidatesNamed.mp member).2, bound, last⟩

end AfterLoad

/-! ## Whole requests -/

namespace Loader

variable {loader : Loader σ} {policy : FallbackPolicy} {text? : Option String} {entropy : Entropy} {seed : Seed}
  {seedText : String} {world : World σ}

theorem generate_of_unreadable {error : KeygenError}
    (unreadable : requestedSeed text? entropy = .error error) :
    loader.generate policy text? entropy = pure (.error error, loader) := by
  rw [generate, unreadable]

theorem generate_of_unloaded (readable : requestedSeed text? entropy = .ok (seed, seedText))
    {error : KeygenError} (unloaded : (loader.load world).value.1 = .error error) :
    loader.generate policy text? entropy world =
      ⟨(.error error, (loader.load world).value.2), (loader.load world).world,
        (loader.load world).events⟩ := by
  rw [generate, readable]
  dsimp only
  rw [Run.bind_apply]
  generalize loader.load world = loading at unloaded
  rcases loading with ⟨⟨outcome, loaded⟩, next, events⟩
  cases unloaded
  simp only [Run.pure_apply, List.append_nil]

theorem generate_of_loaded (readable : requestedSeed text? entropy = .ok (seed, seedText))
    {handle : Handle σ} (loaded : (loader.load world).value.1 = .ok handle) :
    loader.generate policy text? entropy world =
      ⟨((generateOn handle.module policy seed seedText (loader.load world).world).value,
          (loader.load world).value.2),
        (generateOn handle.module policy seed seedText (loader.load world).world).world,
        (loader.load world).events ++
          (generateOn handle.module policy seed seedText (loader.load world).world).events⟩ := by
  rw [generate, readable]
  dsimp only
  rw [Run.bind_apply]
  generalize loader.load world = loading at loaded
  rcases loading with ⟨⟨outcome, after⟩, next, events⟩
  cases loaded
  simp only [Run.bind_apply, Run.pure_apply, List.append_nil]

/-- A request on a settled loader starts no import. -/
theorem imports_generate_of_settled {outcome : Outcome σ} (settled : loader.cell = some outcome)
    (policy : FallbackPolicy) (text? : Option String) (entropy : Entropy) (world : World σ) :
    Event.imports (loader.generate policy text? entropy world).events = [] := by
  cases readable : requestedSeed text? entropy with
  | error error =>
    rw [generate_of_unreadable readable]
    rfl
  | ok requested =>
    have loaded : loader.load world = ⟨(outcome, loader), world, []⟩ := by
      rw [load_of_settled settled, Run.pure_apply]
    cases outcome with
    | error error =>
      rw [generate_of_unloaded readable (congrArg (·.value.1) loaded), loaded]
      rfl
    | ok handle =>
      rw [generate_of_loaded readable (congrArg (·.value.1) loaded), loaded, Event.imports_append,
        Event.imports_eq_nil (shows_generateOn _ _ _ _ _)]
      rfl

end Loader

theorem Loaders.set_self (loaders : Loaders σ) (id : LoaderId) : loaders.set id (loaders id) = loaders := by
  funext other
  unfold set
  split
  · next same => rw [same]
  · rfl

theorem Loaders.set_apply_self (loaders : Loaders σ) (id : LoaderId) (loader : Loader σ) :
    loaders.set id loader id = loader :=
  if_pos rfl

namespace Generator

theorem generate_apply (generator : Generator) (text? : Option String) (entropy : Entropy)
    (loaders : Loaders σ) (world : World σ) :
    generator.generate text? entropy loaders world =
      let ending := (loaders generator.loader).generate generator.policy text? entropy world
      ⟨(ending.value.1, loaders.set generator.loader ending.value.2), ending.world, ending.events⟩ := by
  simp only [generate, Run.bind_apply, Run.pure_apply, List.append_nil]

theorem imports_of_settled (generator : Generator) {loaders : Loaders σ} {outcome : Outcome σ}
    (settled : (loaders generator.loader).cell = some outcome) (text? : Option String) (entropy : Entropy)
    (world : World σ) : Event.imports (generator.generate text? entropy loaders world).events = [] := by
  rw [generate_apply]
  exact imports_generate_of_settled settled generator.policy text? entropy world

/-- A request that has no seed has no effect. -/
theorem generate_of_refused (generator : Generator) {text? : Option String} {entropy : Entropy}
    {error : KeygenError} (refused : requestedSeed text? entropy = .error error) (loaders : Loaders σ) :
    generator.generate text? entropy loaders = pure (.error error, loaders) := by
  simp only [generate, generate_of_unreadable refused, pure_bind, loaders.set_self]

/-- A request without a seed is a request with the text of the random bytes. -/
theorem generate_none (generator : Generator) {entropy other : Entropy} {drawn : Seed}
    (available : entropy.probe = .ok ()) (given : entropy.bytes = .ok drawn)
    (otherAvailable : other.probe = .ok ()) (loaders : Loaders σ) :
    generator.generate none entropy loaders =
      generator.generate (some drawn.text) other loaders := by
  have same : requestedSeed none entropy = requestedSeed (some drawn.text) other :=
    (requestedSeed_drawn available given).trans (requestedSeed_some otherAvailable drawn.ofText_text).symm
  simp only [generate, Loader.generate, same]

/-- The first three stages succeed, with this text of the seed and this key pair. -/
def Derives (generator : Generator) (text? : Option String) (entropy : Entropy) (loaders : Loaders σ)
    (world : World σ) (seedText : String) (derivation : Derivation) : Prop :=
  let loading := (loaders generator.loader).load world
  ∃ seed handle, requestedSeed text? entropy = .ok (seed, seedText) ∧ loading.value.1 = .ok handle ∧
    ((CandidateChain.forHandle handle.module generator.policy).derive seed loading.world).value =
      .ok derivation

/-- What a request answers if the first three stages succeed. -/
theorem value_generate_of_derives {generator : Generator} {text? : Option String} {entropy : Entropy}
    {loaders : Loaders σ} {world : World σ} {seedText : String} {derivation : Derivation}
    (derives : generator.Derives text? entropy loaders world seedText derivation) :
    (generator.generate text? entropy loaders world).value.1 =
      derivation.raw.extractPublicKey.map fun publicKey =>
        ⟨seedText, Base64Url.encode publicKey, derivation.deterministic⟩ := by
  rcases derives with ⟨seed, handle, readable, loaded, derived⟩
  rw [generate_apply, generate_of_loaded readable loaded]
  cases extracted : derivation.raw.extractPublicKey with
  | error error =>
    rw [generateOn_of_unextractable derived extracted]
    rfl
  | ok publicKey =>
    rw [generateOn_of_extracted derived extracted]
    rfl

/-- A request gives keys if all four stages succeed, and only then. -/
theorem value_generate_eq_ok_iff (generator : Generator) (text? : Option String) (entropy : Entropy)
    (loaders : Loaders σ) (world : World σ) (keys : SigningKeys) :
    (generator.generate text? entropy loaders world).value.1 = .ok keys ↔
      ∃ seedText derivation publicKey,
        generator.Derives text? entropy loaders world seedText derivation ∧
        derivation.raw.extractPublicKey = .ok publicKey ∧
        keys = ⟨seedText, Base64Url.encode publicKey, derivation.deterministic⟩ := by
  constructor
  · intro given
    cases readable : requestedSeed text? entropy with
    | error error =>
      rw [generate_apply, generate_of_unreadable readable] at given
      cases given
    | ok requested =>
      rcases requested with ⟨seed, seedText⟩
      cases loaded : ((loaders generator.loader).load world).value.1 with
      | error error =>
        rw [generate_apply, generate_of_unloaded readable loaded] at given
        cases given
      | ok handle =>
        cases derived : ((CandidateChain.forHandle handle.module generator.policy).derive seed
            ((loaders generator.loader).load world).world).value with
        | error error =>
          rw [generate_apply, generate_of_loaded readable loaded, generateOn_of_underived derived] at given
          cases given
        | ok derivation =>
          have derives : generator.Derives text? entropy loaders world seedText derivation :=
            ⟨seed, handle, readable, loaded, derived⟩
          rw [value_generate_of_derives derives] at given
          rcases map_eq_ok given with ⟨publicKey, extracted, rfl⟩
          exact ⟨seedText, derivation, publicKey, derives, extracted, rfl⟩
  · rintro ⟨seedText, derivation, publicKey, derives, extracted, rfl⟩
    rw [value_generate_of_derives derives, extracted]
    rfl

/-- The stages of a request, in order.  If there is no randomness, nothing happens at all, nor if the text is no
seed.  If no implementation is loaded, no factory is called.  If no key pair is derived, or no public half is found
in it, the loader keeps its handle, nothing is imported after the load, the factory that made the key pair is the
last one that was called, and no later request on the loader imports anything.  Otherwise the keys are the
text as it was given, the public half as a text that reads back as it, and whether the factory that made
the key pair takes the seed.  A request without a seed is one with the text of the random bytes, and fails without
any effect if they cannot be drawn. -/
theorem first_failing_stage_decides (generator : Generator) (loaders : Loaders σ) (text : String)
    (entropy : Entropy) (world : World σ) :
    let ending := generator.generate (some text) entropy loaders world
    let loading := (loaders generator.loader).load world
    let loaded := loaders.set generator.loader loading.value.2
    (∀ reason text?, entropy.probe = .error reason → generator.generate text? entropy loaders world =
      ⟨(.error (.environment ("no secure random source: " ++ reason)), loaders), world, []⟩) ∧
    (entropy.probe = .ok () →
      (∀ error, Seed.ofText text = .error error → ending = ⟨(.error error, loaders), world, []⟩) ∧
      (∀ seed error, Seed.ofText text = .ok seed → loading.value.1 = .error error →
        ending = ⟨(.error error, loaded), loading.world, loading.events⟩ ∧
        Event.calls ending.events = []) ∧
      (∀ seed handle, Seed.ofText text = .ok seed → loading.value.1 = .ok handle →
        let tried := (CandidateChain.forHandle handle.module generator.policy).derive seed loading.world
        (∀ error, tried.value = .error error →
          ending = ⟨(.error error, loaded), tried.world, loading.events ++ tried.events⟩) ∧
        (∀ derivation error, tried.value = .ok derivation →
          derivation.raw.extractPublicKey = .error error →
          ending = ⟨(.error error, loaded), tried.world, loading.events ++ tried.events⟩) ∧
        (∀ derivation publicKey, tried.value = .ok derivation →
          derivation.raw.extractPublicKey = .ok publicKey →
          ending.value = (.ok ⟨text, Base64Url.encode publicKey, derivation.deterministic⟩, loaded) ∧
          ending.world = tried.world ∧
          Base64Url.decode (Base64Url.encode publicKey) = .ok publicKey) ∧
        (∀ derivation, tried.value = .ok derivation →
          ∃ factory, handle.module.factory? derivation.factory = some factory ∧
            derivation.deterministic = factory.takesSeed ∧
            (Event.calls ending.events).getLast? =
              some (derivation.factory, if factory.takesSeed then some seed else none)) ∧
        (ending.value.2 generator.loader).cell = some (.ok handle) ∧
        Event.imports ending.events = Event.imports loading.events ∧
        ∀ policy text? random again,
          Event.imports ((Generator.mk generator.loader policy).generate text? random ending.value.2
            again).events = []) ∧
      (∀ reason, entropy.bytes = .error reason → generator.generate none entropy loaders world =
        ⟨(.error (.environment ("secure random source failed: " ++ reason)), loaders), world, []⟩) ∧
      ∀ drawn other, entropy.bytes = .ok drawn → other.probe = .ok () →
        generator.generate none entropy loaders = generator.generate (some drawn.text) other loaders) := by
  intro ending loading loaded
  have refused {text? : Option String} {error : KeygenError}
      (refusal : requestedSeed text? entropy = .error error) :
      generator.generate text? entropy loaders world = ⟨(.error error, loaders), world, []⟩ :=
    congrFun (generator.generate_of_refused refusal loaders) world
  refine ⟨?unavailable, fun available => ?_⟩
  case unavailable =>
    intro reason text? unavailable
    exact refused (requestedSeed_of_unavailable unavailable)
  have applied : ending = _ := generator.generate_apply (some text) entropy loaders world
  refine ⟨?unreadable, ?unloaded, ?loaded, ?undrawn, ?drawn⟩
  case unreadable =>
    intro error unreadable
    refine refused ?_
    rw [requestedSeed_given available, unreadable]
    rfl
  case unloaded =>
    intro seed error readable unloaded
    have ended : ending = ⟨(.error error, loaded), loading.world, loading.events⟩ := by
      rw [applied, generate_of_unloaded (requestedSeed_some available readable) unloaded]
    refine ⟨ended, ?_⟩
    rw [ended]
    exact Event.calls_eq_nil (shows_load _ world)
  case loaded =>
    intro seed handle readable handed tried
    rw [generate_of_loaded (requestedSeed_some available readable) handed] at applied
    have kept : (ending.value.2 generator.loader).cell = some (.ok handle) := by
      rw [applied]
      exact (congrArg Loader.cell (loaders.set_apply_self generator.loader loading.value.2)).trans
        ((cell_load _ world).trans (congrArg some handed))
    refine ⟨?underived, ?unextractable, ?extracted, ?winner, kept, ?imports, ?later⟩
    case underived =>
      intro error underived
      rw [applied, generateOn_of_underived underived]
    case unextractable =>
      intro derivation error derived unextractable
      rw [applied, generateOn_of_unextractable derived unextractable]
    case extracted =>
      intro derivation publicKey derived extracted
      rw [applied, generateOn_of_extracted derived extracted]
      exact ⟨rfl, rfl, Base64Url.decode_encode publicKey⟩
    case winner =>
      intro derivation derived
      rcases derive_winner derived with ⟨factory, exported, bound, last⟩
      refine ⟨factory, exported, bound, ?_⟩
      rw [applied, Event.calls_append, Event.calls_eq_nil (shows_load _ world), List.nil_append,
        calls_generateOn]
      exact last
    case imports =>
      rw [applied, Event.imports_append, Event.imports_eq_nil (shows_generateOn _ _ _ _ _), List.append_nil]
    case later =>
      intro policy text? random again
      generalize ending.value.2 = after at kept ⊢
      exact imports_of_settled ⟨generator.loader, policy⟩ kept text? random again
  case undrawn =>
    intro reason undrawn
    exact refused (requestedSeed_undrawn available undrawn)
  case drawn =>
    intro drawn other given otherAvailable
    exact generator.generate_none available given otherAvailable loaders

end Generator
end NodeKeys
