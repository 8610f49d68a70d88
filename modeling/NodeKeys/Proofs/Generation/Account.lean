import NodeKeys.Builder
import NodeKeys.Proofs.Generation.Stages
import NodeKeys.Proofs.LogLine

/-!
# The log accounts for the keys

Every request for keys leaves the same trace in the log, whichever way it was made.  Until it ends there are
only lines about loader steps and about factories that gave no key pair.  A request that fails reports no
keys.  A request that succeeds reports them once, and a key pair that its seed cannot reproduce is never
reported without a warning about the factory that made it.

What an observer reads is the text of the lines, so that is what the result is about; the kinds of lines are
only the way to it.
-/

namespace NodeKeys

open Loader

variable {σ : Type}

/-- The factory of this name was the last one that was called, and what it returned has this public half. -/
def Module.Produced (implementation : Module σ) (events : List Event) (producer : String)
    (argument : Option Seed) (publicKey : List UInt8) : Prop :=
  ∃ factory state raw, implementation.factory? producer = some factory ∧
    (Event.calls events).getLast? = some (producer, argument) ∧
    (factory.body argument state).1 = .ok raw ∧ raw.extractPublicKey = .ok publicKey

/-- How the events of a request account for the keys that it returned: the log is `earlier`, then `report`,
then `later`. -/
structure Account (implementation : Module σ) (policy : FallbackPolicy) (events : List Event)
    (keys : SigningKeys) (producer : String) (argument : Option Seed) (publicKey : List UInt8)
    (earlier : List LogLine) (report : LogLine) (later : List LogLine) : Prop where
  produced : implementation.Produced events producer argument publicKey
  listed : producer ∈ factoryPriority
  /-- The keys count as reproducible exactly if the factory was given the seed. -/
  bound : keys.deterministic = argument.isSome
  published : Base64Url.decode keys.verify = .ok publicKey
  order : Event.log events = earlier ++ report :: later
  reports : report.ReportsKeys
  worded : report.text = LogLine.reportText publicKey keys.deterministic
  once : ∀ line ∈ earlier ++ later, ¬line.ReportsKeys
  allowed : keys.deterministic = false → policy = .allow
  disclaimed : keys.deterministic = false →
    ∃ line ∈ earlier, line.level = .warn ∧ line.Disclaims producer
  /-- No other factory is said to ignore the seed, and none at all if the keys are reproducible. -/
  justly : ∀ line ∈ Event.log events, ∀ factory, '\x60' ∉ factory.toList → line.Disclaims factory →
    keys.deterministic = false ∧ factory = producer

/-- What the events of a request owe to its result, given what came of loading. -/
def Accounted (loaded : Outcome σ) (policy : FallbackPolicy) (events : List Event) :
    Except KeygenError SigningKeys → Prop
  | .error _ => ∀ line ∈ Event.log events, ¬line.ReportsKeys
  | .ok keys => ∃ handle, loaded = .ok handle ∧
      ∃ producer argument publicKey earlier report later,
        Account handle.module policy events keys producer argument publicKey earlier report later

theorem Module.Produced.enclose {implementation : Module σ} {events : List Event} {producer : String}
    {argument : Option Seed} {publicKey : List UInt8}
    (produced : implementation.Produced events producer argument publicKey) (before : List Event)
    {after : List Event} (calledNothing : Event.calls after = []) :
    implementation.Produced (before ++ (events ++ after)) producer argument publicKey := by
  rcases produced with ⟨factory, state, raw, exported, last, answer, extracted⟩
  refine ⟨factory, state, raw, exported, ?_, answer, extracted⟩
  rw [Event.calls_append, Event.calls_append, calledNothing, List.append_nil, List.getLast?_append, last]
  rfl

/-! ## Loading -/

theorem Loader.interim_load (loader : Loader σ) (world : World σ) :
    ∀ line ∈ Event.log (loader.load world).events, line.Interim := by
  intro line logged
  rcases List.mem_filterMap.mp logged with ⟨event, member, found⟩
  have step := loader.shows_load_steps world event member
  cases event with
  | logged other =>
    cases found
    exact .ofStep step
  | _ => cases found

/-! ## Deriving -/

/-- What is said about a factory that made a key pair. -/
def Derivation.disclaimer (derivation : Derivation) : List LogLine :=
  if derivation.deterministic then [] else [.factoryIgnoresSeed derivation.factory]

theorem Derivation.log_announce (derivation : Derivation) (world : World σ) :
    Event.log (derivation.announce world).events = derivation.disclaimer := by
  unfold announce disclaimer
  split <;> rfl

namespace CandidateChain

theorem PassedOver.interim {policy : FallbackPolicy} {seed : Seed} {candidates : List (Candidate σ)}
    {world last : World σ} {events : List Event}
    (passed : PassedOver policy seed candidates world last events)
    (listed : ∀ candidate ∈ candidates, candidate.name ∈ factoryPriority) :
    ∀ line ∈ Event.log events, line.Interim := by
  induction passed with
  | nobody => exact fun _ impossible => nomatch impossible
  | skipped _ _ inductionHypothesis =>
    rcases List.forall_mem_cons.mp listed with ⟨first, rest⟩
    exact List.forall_mem_cons.mpr ⟨.skipped first, inductionHypothesis rest⟩
  | @setback candidate _ _ _ _ line _ judged _ inductionHypothesis =>
    rcases List.forall_mem_cons.mp listed with ⟨first, rest⟩
    refine List.forall_mem_cons.mpr ⟨?_, inductionHypothesis rest⟩
    rcases Candidate.verdict_error judged with ⟨error, _, rfl⟩ | ⟨raw, _, _, rfl⟩
    · exact .failed first error
    · exact .returnedEmpty first

end CandidateChain

section Derive

variable {handle : Module σ} {policy : FallbackPolicy} {seed : Seed} {world : World σ}

theorem listed_resolveCandidates (handle : Module σ) :
    ∀ candidate ∈ resolveCandidates handle, candidate.name ∈ factoryPriority :=
  fun _ member => (mem_candidatesNamed.mp member).1

theorem interim_of_underived {error : KeygenError}
    (underived : ((CandidateChain.forHandle handle policy).derive seed world).value = .error error) :
    ∀ line ∈ Event.log ((CandidateChain.forHandle handle policy).derive seed world).events,
      line.Interim := by
  have listed := listed_resolveCandidates handle
  have ended : CandidateChain.Tried policy seed (resolveCandidates handle) world
      ((CandidateChain.forHandle handle policy).derive seed world) := CandidateChain.tried _ _ _ _
  generalize (CandidateChain.forHandle handle policy).derive seed world = ending at ended underived ⊢
  cases ended with
  | exhausted passed => exact passed.interim listed
  | derived => cases underived

/-- The log of a derivation that gave a key pair, and how the key pair was made. -/
theorem log_of_derived {derivation : Derivation}
    (derived : ((CandidateChain.forHandle handle policy).derive seed world).value = .ok derivation) :
    ∃ interim argument,
      Event.log ((CandidateChain.forHandle handle policy).derive seed world).events =
        interim ++ derivation.disclaimer ∧
      (∀ line ∈ interim, line.Interim) ∧
      derivation.factory ∈ factoryPriority ∧
      derivation.deterministic = argument.isSome ∧
      (derivation.deterministic = false → policy = .allow) ∧
      ∀ publicKey, derivation.raw.extractPublicKey = .ok publicKey →
        handle.Produced ((CandidateChain.forHandle handle policy).derive seed world).events
          derivation.factory argument publicKey := by
  have listed := listed_resolveCandidates handle
  have ended : CandidateChain.Tried policy seed (resolveCandidates handle) world
      ((CandidateChain.forHandle handle policy).derive seed world) := CandidateChain.tried _ _ _ _
  generalize (CandidateChain.forHandle handle policy).derive seed world = ending at ended derived ⊢
  cases ended with
  | exhausted => cases derived
  | @derived before after winner next events made order passed allowed judged =>
    cases derived
    rcases Candidate.verdict_ok judged with ⟨answer, _, name, bound⟩
    have member : winner ∈ resolveCandidates handle := by
      rw [order]
      exact List.mem_append_right before List.mem_cons_self
    refine ⟨Event.log events, winner.argument seed, ?log, ?interim, ?listed, ?bound, ?allowed, ?produced⟩
    case log =>
      rw [Event.log_append, ← derivation.log_announce next]
      rfl
    case interim =>
      refine passed.interim fun candidate early => listed candidate ?_
      rw [order]
      exact List.mem_append_left _ early
    case listed =>
      rw [name]
      exact listed winner member
    case bound =>
      rw [bound]
      cases takes : winner.factory.takesSeed <;> simp [Candidate.argument, takes]
    case allowed =>
      intro unbound
      cases policy with
      | allow => rfl
      | deny => simp [bound, CandidateChain.takesSeed_of_deny allowed] at unbound
    case produced =>
      intro publicKey extracted
      refine ⟨winner.factory, next.state, derivation.raw, ?_, ?_, answer, extracted⟩
      · rw [name]
        exact (mem_candidatesNamed.mp member).2
      · rw [name]
        exact CandidateChain.getLast?_calls_announce _ _ _ _ _

end Derive

/-! ## Whole requests -/

theorem Derivation.mem_disclaimer {derivation : Derivation} {line : LogLine} :
    line ∈ derivation.disclaimer ↔
      derivation.deterministic = false ∧ line = .factoryIgnoresSeed derivation.factory := by
  unfold disclaimer
  cases derivation.deterministic <;> simp

theorem interim_or_disclaimer {derivation : Derivation} {interim : List LogLine}
    (uneventful : ∀ line ∈ interim, line.Interim) :
    ∀ line ∈ interim ++ derivation.disclaimer, line.Interim ∨ line ∈ derivation.disclaimer := by
  intro line member
  exact (List.mem_append.mp member).imp_left (uneventful line)

/-- Before the report of a key pair, nothing reads like a report. -/
theorem not_reportsKeys_of_interim_or_disclaimer {derivation : Derivation} {line : LogLine}
    (sort : line.Interim ∨ line ∈ derivation.disclaimer) : ¬line.ReportsKeys := by
  rcases sort with interim | disclaimer
  · exact interim.not_reportsKeys
  · rw [(Derivation.mem_disclaimer.mp disclaimer).2]
    exact LogLine.not_reportsKeys_of_initial (by simp [LogLine.initial])

/-- The account of keys, from the lines that were logged before their report. -/
theorem account_of_log {handle : Module σ} {policy : FallbackPolicy} {events : List Event}
    {derivation : Derivation} {argument : Option Seed} {publicKey : List UInt8} {interim : List LogLine}
    (logged : Event.log events = interim ++ derivation.disclaimer ++
      [.generated "ML-DSA-65" publicKey derivation.deterministic, .producedBy derivation.factory])
    (uneventful : ∀ line ∈ interim, line.Interim) (listed : derivation.factory ∈ factoryPriority)
    (bound : derivation.deterministic = argument.isSome)
    (allowed : derivation.deterministic = false → policy = .allow)
    (produced : handle.Produced events derivation.factory argument publicKey) (seedText : String) :
    Account handle policy events ⟨seedText, Base64Url.encode publicKey, derivation.deterministic⟩
      derivation.factory argument publicKey (interim ++ derivation.disclaimer)
      (.generated "ML-DSA-65" publicKey derivation.deterministic) [.producedBy derivation.factory] where
  produced := produced
  listed := listed
  bound := bound
  published := Base64Url.decode_encode publicKey
  order := logged
  reports := LogLine.reportsKeys_generated publicKey derivation.deterministic
  worded := LogLine.text_generated publicKey derivation.deterministic
  once := by
    intro line member
    rcases List.mem_append.mp member with early | late
    · exact not_reportsKeys_of_interim_or_disclaimer (interim_or_disclaimer uneventful line early)
    · rw [List.mem_singleton.mp late]
      exact LogLine.not_reportsKeys_of_initial (by simp [LogLine.initial])
  allowed := allowed
  disclaimed := by
    intro unbound
    have member := Derivation.mem_disclaimer.mpr ⟨unbound, rfl⟩
    exact ⟨_, List.mem_append_right interim member, rfl, LogLine.disclaims_factoryIgnoresSeed _⟩
  justly := by
    intro line member factory plain disclaims
    rw [logged] at member
    rcases List.mem_append.mp member with early | late
    · rcases interim_or_disclaimer uneventful line early with interim | disclaimer
      · exact absurd disclaims (interim.not_disclaims plain)
      · rcases Derivation.mem_disclaimer.mp disclaimer with ⟨unbound, rfl⟩
        exact ⟨unbound, LogLine.eq_of_disclaims disclaims⟩
    · refine absurd disclaims (LogLine.not_disclaims_of_initial ?_ factory)
      rcases List.mem_cons.mp late with rfl | last
      · simp [LogLine.initial_generated]
      · simp [List.mem_singleton.mp last, LogLine.initial]

/-- Whatever comes of an implementation is accounted for, if nothing but loading went before. -/
theorem accounted_generateOn (handle : Handle σ) (policy : FallbackPolicy) (seed : Seed)
    (seedText : String) (world : World σ) {loading : List Event}
    (steps : ∀ line ∈ Event.log loading, line.Interim) :
    Accounted (.ok handle) policy
      (loading ++ (generateOn handle.module policy seed seedText world).events)
      (generateOn handle.module policy seed seedText world).value := by
  cases derived : ((CandidateChain.forHandle handle.module policy).derive seed world).value with
  | error error =>
    rw [generateOn_of_underived derived]
    intro line member
    rw [Event.log_append] at member
    have interim : line.Interim :=
      (List.mem_append.mp member).elim (steps line) (interim_of_underived derived line)
    exact interim.not_reportsKeys
  | ok derivation =>
    rcases log_of_derived derived with
      ⟨interim, argument, logged, uneventful, listed, bound, allowed, produced⟩
    have before : ∀ line ∈ Event.log loading ++ interim, line.Interim := by
      intro line member
      exact (List.mem_append.mp member).elim (steps line) (uneventful line)
    -- The disclaimer comes before the extraction, so a request that fails here may have logged it.
    cases extracted : derivation.raw.extractPublicKey with
    | error error =>
      rw [generateOn_of_unextractable derived extracted]
      intro line member
      rw [Event.log_append, logged, ← List.append_assoc] at member
      exact not_reportsKeys_of_interim_or_disclaimer (interim_or_disclaimer before line member)
    | ok publicKey =>
      rw [generateOn_of_extracted derived extracted]
      refine ⟨handle, rfl, _, argument, publicKey, _, _, _,
        account_of_log ?log before listed bound allowed ?produced seedText⟩
      case log =>
        simp only [Event.log_append, logged, List.append_assoc]
        rfl
      case produced => exact (produced publicKey extracted).enclose loading rfl

theorem Loader.accounted (loader : Loader σ) (policy : FallbackPolicy) (text? : Option String)
    (entropy : Entropy) (world : World σ) :
    Accounted (loader.load world).value.1 policy
      (loader.generate policy text? entropy world).events
      (loader.generate policy text? entropy world).value.1 := by
  have steps := loader.interim_load world
  cases readable : requestedSeed text? entropy with
  | error error =>
    rw [generate_of_unreadable readable]
    exact fun _ impossible => nomatch impossible
  | ok requested =>
    cases loaded : (loader.load world).value.1 with
    | error error =>
      rw [generate_of_unloaded readable loaded]
      exact fun line logged => (steps line logged).not_reportsKeys
    | ok handle =>
      rw [generate_of_loaded readable loaded]
      exact accounted_generateOn handle policy requested.1 requested.2 _ steps

/-- Take any loaders, random bytes and world.  A request that fails, by a generator or by a builder with or
without a handler, reports no keys.  A request that succeeds reports them in exactly one line, which is a
warning without seed binding or a notice with it, as the keys say, and which shows the fingerprint of the
verification key.  If the seed cannot reproduce the keys, the policy allows that, and a warning before the
report says so of the factory that made them.  Nothing of the kind is said of any other factory, nor of this
one if the seed does reproduce the keys. -/
theorem keys_are_accounted_for (loaders : Loaders σ) (entropy : Entropy) (world : World σ) :
    (∀ (generator : Generator) (text? : Option String),
      let ending := generator.generate text? entropy loaders world
      Accounted ((loaders generator.loader).load world).value.1 generator.policy ending.events
        ending.value.1) ∧
    ∀ builder : Builder,
      let loaded := ((loaders builder.loader).load world).value.1
      let ending := builder.generate entropy loaders world
      Accounted loaded builder.policy ending.events ending.value.1 ∧
      ∀ {τ : Type} (handler : Except KeygenError SigningKeys → τ),
        let handled := builder.generateThen handler entropy loaders world
        handled.value.1 = handler ending.value.1 ∧
        Accounted loaded builder.policy handled.events ending.value.1 := by
  have accounted : ∀ (generator : Generator) (text? : Option String),
      Accounted ((loaders generator.loader).load world).value.1 generator.policy
        (generator.generate text? entropy loaders world).events
        (generator.generate text? entropy loaders world).value.1 := by
    intro generator text?
    rw [generator.generate_apply]
    exact (loaders generator.loader).accounted generator.policy text? entropy world
  refine ⟨accounted, fun builder => ?_⟩
  have asked := accounted ⟨builder.loader, builder.policy⟩ builder.seed
  refine ⟨asked, fun handler => ?_⟩
  rw [builder.generateThen_apply]
  exact ⟨rfl, asked⟩

end NodeKeys
