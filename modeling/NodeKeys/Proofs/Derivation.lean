import NodeKeys.Derivation
import NodeKeys.Proofs.Search

/-!
# How a chain of candidates is tried

`deriveFrom_cons` says what happens at one candidate if nothing comes between its call and its answer; everything
else follows from it by induction on the candidates.  A candidate that the policy skips is only logged.  The answer
of any other candidate is a setback, after which the next one is tried, or a key pair, which ends the chain.
-/

namespace NodeKeys

variable {σ : Type}

/-- Call the factory and wait for its answer, without interruption. -/
def Candidate.call (candidate : Candidate σ) (seed : Seed) : Run σ (Except FactoryError RawKeyPair) := do
  Run.emit (.called candidate.name (candidate.argument seed))
  Run.act (candidate.factory.body (candidate.argument seed))

/-- What the answer of a candidate amounts to: a setback, which is logged, or a key pair. -/
def Candidate.verdict (candidate : Candidate σ) :
    Except FactoryError RawKeyPair → Except LogLine Derivation
  | .error error => .error (.factoryFailed candidate.name error)
  | .ok raw =>
    if raw.isEmpty then .error (.factoryReturnedEmpty candidate.name)
    else .ok ⟨raw, candidate.name, candidate.factory.takesSeed⟩

/-- Warn about a key pair that was made without the seed. -/
def Derivation.announce (derivation : Derivation) : Run σ Unit :=
  if derivation.deterministic then pure () else Run.log (.factoryIgnoresSeed derivation.factory)

theorem Candidate.verdict_ok {candidate : Candidate σ} {answer : Except FactoryError RawKeyPair}
    {derivation : Derivation} (judged : candidate.verdict answer = .ok derivation) :
    answer = .ok derivation.raw ∧ derivation.raw.isEmpty = false ∧
      derivation.factory = candidate.name ∧
      derivation.deterministic = candidate.factory.takesSeed := by
  cases answer with
  | error error => cases judged
  | ok raw =>
    cases empty : raw.isEmpty with
    | true =>
      simp only [verdict, empty, if_true] at judged
      cases judged
    | false =>
      simp only [verdict, empty, Bool.false_eq_true, if_false] at judged
      cases judged
      exact ⟨rfl, empty, rfl, rfl⟩

/-- A candidate that gave no key pair failed or returned something empty. -/
theorem Candidate.verdict_error {candidate : Candidate σ} {answer : Except FactoryError RawKeyPair}
    {line : LogLine} (judged : candidate.verdict answer = .error line) :
    (∃ error, answer = .error error ∧ line = .factoryFailed candidate.name error) ∨
      ∃ raw, answer = .ok raw ∧ raw.isEmpty = true ∧ line = .factoryReturnedEmpty candidate.name := by
  cases answer with
  | error error =>
    cases judged
    exact Or.inl ⟨error, rfl, rfl⟩
  | ok raw =>
    cases empty : raw.isEmpty with
    | true =>
      simp only [verdict, empty, if_true] at judged
      cases judged
      exact Or.inr ⟨raw, rfl, empty, rfl⟩
    | false =>
      simp only [verdict, empty, Bool.false_eq_true, if_false] at judged
      cases judged

theorem Candidate.consider_some (candidate : Candidate σ) (answer : Except FactoryError RawKeyPair) :
    candidate.consider (some answer) =
      match candidate.verdict answer with
      | .error line => do
        Run.log line
        return none
      | .ok derivation => do
        derivation.announce
        return some derivation := by
  cases answer with
  | error error => rfl
  | ok raw =>
    cases empty : raw.isEmpty with
    | true => simp only [consider, verdict, empty, if_true]
    | false =>
      cases bound : candidate.factory.takesSeed <;>
        simp [consider, verdict, Derivation.announce, empty, bound]

namespace CandidateChain

/-- A candidate that the policy skips is logged. -/
theorem tryItem_of_skips {policy : FallbackPolicy} {candidate : Candidate σ}
    (skipped : policy.skips candidate = true) (seed : Seed) :
    (search policy seed).tryItem candidate = (do
      Run.log (.factorySkipped candidate.name)
      return none) := by
  change candidate.start policy seed >>= _ = _
  rw [Candidate.start, if_pos skipped, pure_bind]
  rfl

/-- Any other candidate is called. -/
theorem tryItem_of_calls {policy : FallbackPolicy} {candidate : Candidate σ}
    (called : policy.skips candidate = false) (seed : Seed) :
    (search policy seed).tryItem candidate = (do
      let answer ← candidate.call seed
      candidate.consider (some answer)) := by
  change candidate.start policy seed >>= _ = _
  rw [Candidate.start, if_neg (ne_true_of_eq_false called)]
  rfl

/-- One candidate of a chain. -/
theorem deriveFrom_cons (policy : FallbackPolicy) (seed : Seed) (candidate : Candidate σ)
    (rest : List (Candidate σ)) :
    deriveFrom policy seed (candidate :: rest) =
      if policy.skips candidate then do
        Run.log (.factorySkipped candidate.name)
        deriveFrom policy seed rest
      else do
        let answer ← candidate.call seed
        match candidate.verdict answer with
        | .error line => do
          Run.log line
          deriveFrom policy seed rest
        | .ok derivation => do
          derivation.announce
          return .ok derivation := by
  rw [deriveFrom, Search.complete_cons]
  cases skipped : policy.skips candidate with
  | true =>
    rw [tryItem_of_skips skipped]
    rfl
  | false =>
    rw [tryItem_of_calls skipped, bind_assoc, if_neg Bool.false_ne_true]
    refine congrArg (candidate.call seed >>= ·) (funext fun answer => ?_)
    rw [Candidate.consider_some]
    cases candidate.verdict answer with
    | error line => rfl
    | ok derivation => simp only [bind_assoc, pure_bind]

theorem call_apply (candidate : Candidate σ) (seed : Seed) (world : World σ) :
    candidate.call seed world =
      ⟨(candidate.factory.body (candidate.argument seed) world.state).1,
        { world with state := (candidate.factory.body (candidate.argument seed) world.state).2 },
        [.called candidate.name (candidate.argument seed)]⟩ := rfl

theorem calls_announce (derivation : Derivation) (world : World σ) :
    Event.calls (derivation.announce world).events = [] := by
  unfold Derivation.announce
  split <;> rfl

/-- The factory that made a key pair is the last one that was called. -/
theorem getLast?_calls_announce (events : List Event) (factory : String) (argument : Option Seed)
    (derivation : Derivation) (world : World σ) :
    (Event.calls (events ++ .called factory argument :: (derivation.announce world).events)).getLast? =
      some (factory, argument) := by
  rw [Event.calls_append, List.getLast?_append]
  change (((factory, argument) :: Event.calls (derivation.announce world).events).getLast?.or _) = _
  rw [calls_announce]
  rfl

section Candidates

variable {policy : FallbackPolicy} {seed : Seed} {candidate : Candidate σ}
  {rest : List (Candidate σ)} {world : World σ}

theorem deriveFrom_skip (skipped : policy.skips candidate = true) :
    deriveFrom policy seed (candidate :: rest) world =
      ⟨(deriveFrom policy seed rest world).value, (deriveFrom policy seed rest world).world,
        .logged (.factorySkipped candidate.name) :: (deriveFrom policy seed rest world).events⟩ := by
  rw [deriveFrom_cons, if_pos skipped]
  rfl

theorem deriveFrom_setback (allowed : policy.skips candidate = false) {line : LogLine}
    (judged : candidate.verdict (candidate.call seed world).value = .error line) :
    deriveFrom policy seed (candidate :: rest) world =
      ⟨(deriveFrom policy seed rest (candidate.call seed world).world).value,
        (deriveFrom policy seed rest (candidate.call seed world).world).world,
        .called candidate.name (candidate.argument seed) :: .logged line ::
          (deriveFrom policy seed rest (candidate.call seed world).world).events⟩ := by
  rw [deriveFrom_cons, allowed, if_neg Bool.false_ne_true, Run.bind_apply, judged]
  rfl

theorem deriveFrom_success (allowed : policy.skips candidate = false) {derivation : Derivation}
    (judged : candidate.verdict (candidate.call seed world).value = .ok derivation) :
    deriveFrom policy seed (candidate :: rest) world =
      ⟨.ok derivation, (candidate.call seed world).world,
        .called candidate.name (candidate.argument seed) :: (derivation.announce world).events⟩ := by
  rw [deriveFrom_cons, allowed, if_neg Bool.false_ne_true, Run.bind_apply, judged]
  cases bound : derivation.deterministic <;>
    simp only [Derivation.announce, bound, Bool.false_eq_true, if_true, if_false] <;> rfl

end Candidates

/-! ## Whole chains -/

/-- From one world to another, all of these candidates were passed over: those that the policy skips were
only logged, and the others were called and gave no key pair. -/
inductive PassedOver (policy : FallbackPolicy) (seed : Seed) :
    List (Candidate σ) → World σ → World σ → List Event → Prop
  | nobody {world : World σ} : PassedOver policy seed [] world world []
  | skipped {candidate : Candidate σ} {rest : List (Candidate σ)} {world last : World σ}
      {events : List Event} (skipped : policy.skips candidate = true)
      (onward : PassedOver policy seed rest world last events) :
      PassedOver policy seed (candidate :: rest) world last
        (.logged (.factorySkipped candidate.name) :: events)
  | setback {candidate : Candidate σ} {rest : List (Candidate σ)} {world last : World σ}
      {events : List Event} {line : LogLine} (allowed : policy.skips candidate = false)
      (judged : candidate.verdict (candidate.call seed world).value = .error line)
      (onward : PassedOver policy seed rest (candidate.call seed world).world last events) :
      PassedOver policy seed (candidate :: rest) world last
        (.called candidate.name (candidate.argument seed) :: .logged line :: events)

/-- The ways in which a chain can end. -/
inductive Tried (policy : FallbackPolicy) (seed : Seed) (candidates : List (Candidate σ))
    (world : World σ) : Ending σ (Except KeygenError Derivation) → Prop
  /-- All candidates were passed over. -/
  | exhausted {last : World σ} {events : List Event}
      (passed : PassedOver policy seed candidates world last events) :
      Tried policy seed candidates world
        ⟨.error (.keyGenerationFailed "compatible function not found"), last, events⟩
  /-- A candidate gave a key pair, after the ones before it were passed over. -/
  | derived {before after : List (Candidate σ)} {winner : Candidate σ} {next : World σ}
      {events : List Event} {derivation : Derivation} (order : candidates = before ++ winner :: after)
      (passed : PassedOver policy seed before world next events)
      (allowed : policy.skips winner = false)
      (judged : winner.verdict (winner.call seed next).value = .ok derivation) :
      Tried policy seed candidates world
        ⟨.ok derivation, (winner.call seed next).world,
          events ++ .called winner.name (winner.argument seed) :: (derivation.announce next).events⟩

theorem tried (policy : FallbackPolicy) (seed : Seed) (candidates : List (Candidate σ))
    (world : World σ) :
    Tried policy seed candidates world (deriveFrom policy seed candidates world) := by
  induction candidates generalizing world with
  | nil => exact .exhausted .nobody
  | cons candidate rest inductionHypothesis =>
    cases skipped : policy.skips candidate with
    | true =>
      rw [deriveFrom_skip skipped]
      have onward := inductionHypothesis world
      generalize deriveFrom policy seed rest world = ending at onward ⊢
      cases onward with
      | exhausted passed => exact .exhausted (.skipped skipped passed)
      | derived order passed allowed judged =>
        exact .derived (congrArg (candidate :: ·) order) (.skipped skipped passed) allowed judged
    | false =>
      cases judged : candidate.verdict (candidate.call seed world).value with
      | error line =>
        rw [deriveFrom_setback skipped judged]
        have onward := inductionHypothesis (candidate.call seed world).world
        generalize deriveFrom policy seed rest (candidate.call seed world).world = ending at onward ⊢
        cases onward with
        | exhausted passed => exact .exhausted (.setback skipped judged passed)
        | derived order passed allowed won =>
          exact .derived (congrArg (candidate :: ·) order) (.setback skipped judged passed) allowed won
      | ok derivation =>
        rw [deriveFrom_success skipped judged]
        have first : candidate :: rest = [] ++ candidate :: rest := rfl
        exact .derived first .nobody skipped judged

/-- Whichever candidate made the key pair was allowed to, and was the last one that was called. -/
theorem deriveFrom_ok {policy : FallbackPolicy} {seed : Seed} {candidates : List (Candidate σ)}
    {world : World σ} {derivation : Derivation}
    (derived : (deriveFrom policy seed candidates world).value = .ok derivation) :
    derivation.raw.isEmpty = false ∧
      ∃ candidate ∈ candidates, policy.skips candidate = false ∧
        derivation.factory = candidate.name ∧
        derivation.deterministic = candidate.factory.takesSeed ∧
        (Event.calls (deriveFrom policy seed candidates world).events).getLast? =
          some (candidate.name, candidate.argument seed) := by
  have ended := tried policy seed candidates world
  generalize deriveFrom policy seed candidates world = ending at ended derived ⊢
  cases ended with
  | exhausted => cases derived
  | @derived before after winner next events made order _ allowed judged =>
    cases derived
    rcases Candidate.verdict_ok judged with ⟨_, content, name, bound⟩
    have member : winner ∈ candidates := order ▸ List.mem_append_right before List.mem_cons_self
    exact ⟨content, winner, member, allowed, name, bound, getLast?_calls_announce _ _ _ _ _⟩

theorem PassedOver.mem_calls {policy : FallbackPolicy} {seed : Seed} {candidates : List (Candidate σ)}
    {world last : World σ} {events : List Event}
    (passed : PassedOver policy seed candidates world last events) {call : String × Option Seed}
    (called : call ∈ Event.calls events) :
    ∃ caller ∈ candidates, policy.skips caller = false ∧ call = (caller.name, caller.argument seed) := by
  induction passed with
  | nobody => cases called
  | skipped _ _ inductionHypothesis =>
    rcases inductionHypothesis called with ⟨caller, member, allowed, same⟩
    exact ⟨caller, List.mem_cons_of_mem _ member, allowed, same⟩
  | @setback first _ _ _ _ _ allowed _ _ inductionHypothesis =>
    rcases List.mem_cons.mp called with same | fromRest
    · exact ⟨first, List.mem_cons_self, allowed, same⟩
    · rcases inductionHypothesis fromRest with ⟨caller, member, allowed, same⟩
      exact ⟨caller, List.mem_cons_of_mem _ member, allowed, same⟩

/-- Every call in a chain is that of a candidate which the policy lets through. -/
theorem mem_calls_deriveFrom {policy : FallbackPolicy} {seed : Seed} {candidates : List (Candidate σ)}
    {world : World σ} {call : String × Option Seed}
    (called : call ∈ Event.calls (deriveFrom policy seed candidates world).events) :
    ∃ caller ∈ candidates, policy.skips caller = false ∧ call = (caller.name, caller.argument seed) := by
  have ended := tried policy seed candidates world
  generalize deriveFrom policy seed candidates world = ending at ended called
  cases ended with
  | exhausted passed => exact passed.mem_calls called
  | @derived before after winner next events derivation order passed allowed =>
    rw [order]
    rw [Event.calls_append] at called
    rcases List.mem_append.mp called with early | last
    · rcases passed.mem_calls early with ⟨caller, member, lets, same⟩
      exact ⟨caller, List.mem_append_left _ member, lets, same⟩
    · change call ∈ (winner.name, winner.argument seed) :: Event.calls (derivation.announce next).events at last
      rw [calls_announce] at last
      exact ⟨winner, List.mem_append_right before List.mem_cons_self, allowed, List.mem_singleton.mp last⟩

/-! ## Without fallback -/

theorem takesSeed_of_deny {candidate : Candidate σ}
    (allowed : FallbackPolicy.deny.skips candidate = false) : candidate.factory.takesSeed = true := by
  simpa [FallbackPolicy.skips] using allowed

theorem deterministic_of_deny {handle : Module σ} {seed : Seed} {world : World σ}
    {derivation : Derivation} (derived : ((forHandle handle .deny).derive seed world).value = .ok derivation) :
    derivation.deterministic = true := by
  rcases deriveFrom_ok derived with ⟨_, candidate, _, allowed, _, deterministic, _⟩
  exact deterministic.trans (takesSeed_of_deny allowed)

end CandidateChain

theorem mem_candidatesNamed {names : List String} {handle : Module σ} {candidate : Candidate σ} :
    candidate ∈ candidatesNamed names handle ↔
      candidate.name ∈ names ∧ handle.factory? candidate.name = some candidate.factory := by
  unfold candidatesNamed
  rw [List.mem_filterMap]
  constructor
  · rintro ⟨name, listed, found⟩
    rcases Option.map_eq_some_iff.mp found with ⟨factory, exported, rfl⟩
    exact ⟨listed, exported⟩
  · rintro ⟨listed, exported⟩
    exact ⟨candidate.name, listed, by rw [exported]; rfl⟩

end NodeKeys
