import NodeKeys.Proofs.Derivation

/-!
# What comes before a factory that takes no seed

A chain that allows the fallback goes by names.  If a factory that takes no seed makes the key pair, the
factories under earlier names that do take it have been called with it, and none of them gave a key pair.
Nothing is promised about the factories under later names: they are not called at all.

So such a factory is the last resort exactly when no factory under a later name takes the seed.  Names alone
do not decide this, because a name that usually takes the seed may stand for a factory without arguments.
-/

namespace NodeKeys

variable {σ : Type}

/-- The factory of this name was called with the seed and gave no key pair: it failed, or what it returned
is empty. -/
def Factory.CalledInVain (factory : Factory σ) (name : String) (seed : Seed) (events : List Event) : Prop :=
  ∃ (earlier later : List Event) (line : LogLine) (state : σ),
    events = earlier ++ .called name (some seed) :: .logged line :: later ∧
    ((∃ error, (factory.body (some seed) state).1 = .error error ∧ line = .factoryFailed name error) ∨
      ∃ raw, (factory.body (some seed) state).1 = .ok raw ∧ raw.isEmpty = true ∧
        line = .factoryReturnedEmpty name)

/-- Every factory that takes the seed and would be tried was called with it and gave no key pair. -/
def Module.SeedTakersFailed (handle : Module σ) (seed : Seed) (events : List Event) : Prop :=
  ∀ name ∈ factoryPriority, ∀ factory, handle.factory? name = some factory → 0 < factory.arity →
    factory.CalledInVain name seed events

/-! ## Candidates that were passed over -/

theorem Factory.CalledInVain.append {factory : Factory σ} {name : String} {seed : Seed}
    {events : List Event} (inVain : factory.CalledInVain name seed events) (before after : List Event) :
    factory.CalledInVain name seed (before ++ events ++ after) := by
  rcases inVain with ⟨earlier, later, line, state, happened, answer⟩
  refine ⟨before ++ earlier, later ++ after, line, state, ?_, answer⟩
  rw [happened]
  simp only [List.append_assoc, List.cons_append]

theorem Factory.CalledInVain.mem_calls {factory : Factory σ} {name : String} {seed : Seed}
    {events : List Event} (inVain : factory.CalledInVain name seed events) :
    (name, some seed) ∈ Event.calls events := by
  rcases inVain with ⟨earlier, later, line, state, happened, _⟩
  rw [happened, Event.calls_append]
  exact List.mem_append_right _ List.mem_cons_self

namespace CandidateChain

theorem PassedOver.calledInVain {policy : FallbackPolicy} {seed : Seed} {candidates : List (Candidate σ)}
    {world last : World σ} {events : List Event}
    (passed : PassedOver policy seed candidates world last events) {candidate : Candidate σ}
    (member : candidate ∈ candidates) (takes : candidate.factory.takesSeed = true) :
    candidate.factory.CalledInVain candidate.name seed events := by
  induction passed with
  | nobody => cases member
  | @skipped first _ _ _ events skipped _ inductionHypothesis =>
    -- A candidate that takes the seed is never skipped, so it is one of the rest.
    have later := inductionHypothesis ((List.mem_cons.mp member).resolve_left ?other)
    case other =>
      rintro rfl
      simp only [FallbackPolicy.skips, takes, Bool.not_true, Bool.false_and] at skipped
      cases skipped
    simpa using later.append [.logged (.factorySkipped first.name)] []
  | @setback first _ world _ events line _ judged _ inductionHypothesis =>
    rcases List.mem_cons.mp member with rfl | fromRest
    · have given : candidate.argument seed = some seed := if_pos takes
      rw [call_apply, given] at judged
      rw [given]
      exact ⟨[], events, line, world.state, rfl, Candidate.verdict_error judged⟩
    · have later := inductionHypothesis fromRest
      simpa using later.append [.called first.name (first.argument seed), .logged line] []

/-- The end of a chain in which a factory that takes no seed made the key pair. -/
theorem deriveFrom_unbound {policy : FallbackPolicy} {seed : Seed} {candidates : List (Candidate σ)}
    {world : World σ} {derivation : Derivation}
    (derived : (deriveFrom policy seed candidates world).value = .ok derivation)
    (unbound : derivation.deterministic = false) :
    ∃ before winner after next sofar, candidates = before ++ winner :: after ∧
      winner.name = derivation.factory ∧ winner.factory.takesSeed = false ∧
      PassedOver policy seed before world next sofar ∧
      (deriveFrom policy seed candidates world).events =
        sofar ++ [.called derivation.factory none, .logged (.factoryIgnoresSeed derivation.factory)] := by
  have ended := tried policy seed candidates world
  generalize deriveFrom policy seed candidates world = ending at ended derived ⊢
  cases ended with
  | exhausted => cases derived
  | @derived before after winner next sofar made order passed allowed judged =>
    cases derived
    rcases Candidate.verdict_ok judged with ⟨_, _, name, bound⟩
    have withoutSeed : winner.factory.takesSeed = false := bound.symm.trans unbound
    refine ⟨before, winner, after, next, sofar, order, name.symm, withoutSeed, passed, ?_⟩
    simp only [Candidate.argument, withoutSeed, Derivation.announce, unbound, name, Bool.false_eq_true,
      if_false, Run.log_apply]

end CandidateChain

/-! ## Names in order -/

/-- Candidates before and after one of them are those under earlier and under later names. -/
theorem candidatesNamed_split {names : List String} {handle : Module σ}
    {before after : List (Candidate σ)} {winner : Candidate σ}
    (order : candidatesNamed names handle = before ++ winner :: after) :
    ∃ earlier later, names = earlier ++ winner.name :: later ∧
      handle.factory? winner.name = some winner.factory ∧ candidatesNamed earlier handle = before := by
  unfold candidatesNamed at order
  rcases List.filterMap_eq_append_iff.mp order with ⟨first, second, split, named, onward⟩
  rcases List.filterMap_eq_cons_iff.mp onward with ⟨absent, name, later, rest, missing, found, _⟩
  rcases Option.map_eq_some_iff.mp found with ⟨factory, exported, rfl⟩
  refine ⟨first ++ absent, later, ?_, exported, ?_⟩
  · rw [split, rest, List.append_assoc]
  · unfold candidatesNamed
    rw [List.filterMap_append, named, List.filterMap_eq_nil_iff.mpr missing, List.append_nil]

/-- No name is tried twice. -/
theorem not_earlier_of_later {earlier later : List String} {chosen name : String}
    (order : factoryPriority = earlier ++ chosen :: later) (member : name ∈ later) :
    name ∉ earlier ∧ name ≠ chosen := by
  have once : factoryPriority.Nodup := by decide
  rw [order, List.nodup_append, List.nodup_cons] at once
  rcases once with ⟨_, ⟨fresh, _⟩, apart⟩
  constructor
  · intro early
    exact apart name early name (List.mem_cons_of_mem _ member) rfl
  · rintro rfl
    exact fresh member

namespace CandidateChain

/-- Take any module, any seed and any world, and let a factory that takes no seed make the key pair under a
policy that allows it.  Every factory under an earlier name that takes the seed was called with it before and
gave no key pair.  No factory under a later name was called.  So all factories that take the seed have had
their turn if and only if none of them has a later name. -/
theorem seed_takers_failed_iff (handle : Module σ) (seed : Seed) (world : World σ)
    (derivation : Derivation)
    (derived : ((forHandle handle .allow).derive seed world).value = .ok derivation)
    (unbound : derivation.deterministic = false) :
    let events := ((forHandle handle .allow).derive seed world).events
    ∃ earlier later sofar, factoryPriority = earlier ++ derivation.factory :: later ∧
      events = sofar ++
        [.called derivation.factory none, .logged (.factoryIgnoresSeed derivation.factory)] ∧
      (∀ name ∈ earlier, ∀ factory, handle.factory? name = some factory → 0 < factory.arity →
        factory.CalledInVain name seed sofar) ∧
      (∀ name ∈ later, ∀ argument, (name, argument) ∉ Event.calls events) ∧
      (handle.SeedTakersFailed seed events ↔
        ∀ name ∈ later, ∀ factory, handle.factory? name = some factory → factory.arity = 0) := by
  intro events
  rcases deriveFrom_unbound derived unbound with
    ⟨before, winner, after, next, sofar, order, name, withoutSeed, passed, happened⟩
  rcases candidatesNamed_split order with ⟨earlier, later, names, exported, fromEarlier⟩
  rw [name] at names exported
  change events = _ at happened
  have early : ∀ name ∈ earlier, ∀ factory, handle.factory? name = some factory → 0 < factory.arity →
      factory.CalledInVain name seed sofar := by
    intro name listed factory offered takes
    have member : (⟨name, factory⟩ : Candidate σ) ∈ before := by
      rw [← fromEarlier]
      exact mem_candidatesNamed.mpr ⟨listed, offered⟩
    exact passed.calledInVain member (decide_eq_true takes)
  have late : ∀ name ∈ later, ∀ argument, (name, argument) ∉ Event.calls events := by
    intro name listed argument called
    rcases not_earlier_of_later names listed with ⟨notEarly, notChosen⟩
    rw [happened, Event.calls_append] at called
    rcases List.mem_append.mp called with before | now
    · rcases passed.mem_calls before with ⟨caller, member, _, same⟩
      cases same
      rw [← fromEarlier] at member
      exact notEarly (mem_candidatesNamed.mp member).1
    · exact notChosen (congrArg Prod.fst (List.mem_singleton.mp now))
  refine ⟨earlier, later, sofar, names, happened, early, late, ?forward, ?backward⟩
  case forward =>
    intro failed name listed factory offered
    refine Nat.eq_zero_of_not_pos fun takes => ?_
    have tried : name ∈ factoryPriority := by
      rw [names]
      exact List.mem_append_right _ (List.mem_cons_of_mem _ listed)
    exact late name listed (some seed) (failed name tried factory offered takes).mem_calls
  case backward =>
    intro noneLater name listed factory offered takes
    rw [names] at listed
    rcases List.mem_append.mp listed with early' | rest
    · have inVain := (early name early' factory offered takes).append []
        [.called derivation.factory none, .logged (.factoryIgnoresSeed derivation.factory)]
      rw [happened]
      exact inVain
    · rcases List.mem_cons.mp rest with rfl | late'
      · cases exported.symm.trans offered
        rw [Factory.takesSeed, decide_eq_true takes] at withoutSeed
        cases withoutSeed
      · exact absurd (noneLater name late' factory offered) (Nat.ne_of_gt takes)

/-- A module whose names mislead: `from_seed` takes no seed, and `keygen`, which comes later, does.  The one
factory before them always fails. -/
def misnamed : Module Unit :=
  (((Module.empty "misnamed").withFactory "keygen_from_seed"
      (.seeded fun _ state => (.error ⟨"out of order"⟩, state))).withFactory "from_seed"
        (.unseeded fun state => (.ok (.bytes [1, 2, 3]), state))).withFactory "keygen"
          (.seeded fun seed state => (.ok (.bytes seed.bytes), state))

theorem seed_takers_failed_iff_misnamed :
    let seed : Seed := ⟨List.replicate 32 7, rfl⟩
    let ending := (forHandle misnamed .allow).derive seed ⟨(), 0⟩
    ending.value = .ok ⟨.bytes [1, 2, 3], "from_seed", false⟩ ∧
    ∃ earlier later sofar, factoryPriority = earlier ++ "from_seed" :: later ∧
      ending.events = sofar ++ [.called "from_seed" none, .logged (.factoryIgnoresSeed "from_seed")] ∧
      (∀ name ∈ earlier, ∀ factory, misnamed.factory? name = some factory → 0 < factory.arity →
        factory.CalledInVain name seed sofar) ∧
      (∀ name ∈ later, ∀ argument, (name, argument) ∉ Event.calls ending.events) ∧
      (misnamed.SeedTakersFailed seed ending.events ↔
        ∀ name ∈ later, ∀ factory, misnamed.factory? name = some factory → factory.arity = 0) := by
  intro seed ending
  have derived : ending.value = .ok ⟨.bytes [1, 2, 3], "from_seed", false⟩ := rfl
  exact ⟨derived, seed_takers_failed_iff misnamed seed ⟨(), 0⟩ _ derived rfl⟩

/-- Allowing the fallback is not the same as making it the last resort.  On a module with misleading names
the factory without a seed makes the key pair, while the one that takes the seed is never called, although
it would have worked. -/
theorem working_seed_taker_is_not_called :
    let seed : Seed := ⟨List.replicate 32 7, rfl⟩
    let allowed := (forHandle misnamed .allow).derive seed ⟨(), 0⟩
    let denied := (forHandle misnamed .deny).derive seed ⟨(), 0⟩
    allowed.value = .ok ⟨.bytes [1, 2, 3], "from_seed", false⟩ ∧
    ¬misnamed.SeedTakersFailed seed allowed.events ∧
    denied.value = .ok ⟨.bytes seed.bytes, "keygen", true⟩ := by
  intro seed allowed denied
  refine ⟨rfl, fun failed => ?_, rfl⟩
  have calls : Event.calls allowed.events = [("keygen_from_seed", some seed), ("from_seed", none)] := rfl
  have called := (failed "keygen" (by decide) _ rfl Nat.one_pos).mem_calls
  rw [calls] at called
  simp at called

end CandidateChain
end NodeKeys
