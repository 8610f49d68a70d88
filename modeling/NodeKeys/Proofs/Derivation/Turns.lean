import NodeKeys.Proofs.Derivation
import NodeKeys.Proofs.Rehearsal

/-!
# Taking turns

In the rehearsal of a chain every candidate has its turn.  A policy that denies the fallback lets the turn of a
candidate without arguments pass unused.

The chain takes these turns in the same order and stops after the first that gives a key pair with something in
it.  What it returns, whom it calls and with what, which lines it logs and in which state it ends can all be
read off the rehearsal.
-/

namespace NodeKeys

variable {σ : Type}

/-- Nothing, or a byte string, record or sequence without content. -/
def RawKeyPair.Vacant (raw : RawKeyPair) : Prop :=
  raw = .null ∨ raw = .bytes [] ∨ raw = .object [] ∨ raw = .list []

/-- The turn of a candidate. -/
structure Turn (σ : Type) where
  candidate : Candidate σ
  /-- The answer of its factory; none if the turn passed unused. -/
  answer? : Option (Except FactoryError RawKeyPair)
  /-- The state after the turn. -/
  state : σ

namespace Turn

/-- What the factory is given when it is called: the seed, if it declares an argument. -/
def argument (turn : Turn σ) (seed : Seed) : Option Seed :=
  if 0 < turn.candidate.factory.arity then some seed else none

/-- The call of the factory, unless the turn passed unused. -/
def call? (seed : Seed) (turn : Turn σ) : Option (String × Option Seed) :=
  turn.answer?.map fun _ => (turn.candidate.name, turn.argument seed)

/-- The factory answered with this key pair, and there is something in it. -/
def Gives (turn : Turn σ) (raw : RawKeyPair) : Prop :=
  turn.answer? = some (.ok raw) ∧ ¬ raw.Vacant

/-- The line about a turn that gave no key pair. -/
def setback (turn : Turn σ) : LogLine :=
  match turn.answer? with
  | none => .factorySkipped turn.candidate.name
  | some (.error error) => .factoryFailed turn.candidate.name error
  | some (.ok _) => .factoryReturnedEmpty turn.candidate.name

/-- The lines about a turn that gave a key pair: a warning, if that was without the seed. -/
def announcement (turn : Turn σ) : List LogLine :=
  if turn.candidate.factory.arity = 0 then [.factoryIgnoresSeed turn.candidate.name] else []

end Turn

/-- The turn that a candidate has in a state. -/
def Candidate.turn (policy : FallbackPolicy) (seed : Seed) (candidate : Candidate σ) (state : σ) : Turn σ :=
  if policy = .deny ∧ candidate.factory.arity = 0 then ⟨candidate, none, state⟩
  else
    let answered := candidate.factory.body (if 0 < candidate.factory.arity then some seed else none) state
    ⟨candidate, some answered.1, answered.2⟩

/-- The turns of all candidates, one after the other. -/
def turns (policy : FallbackPolicy) (seed : Seed) : List (Candidate σ) → σ → List (Turn σ) :=
  rehearse (Candidate.turn policy seed) Turn.state

/-! ## One turn -/

theorem RawKeyPair.isEmpty_eq_true_iff (raw : RawKeyPair) : raw.isEmpty = true ↔ raw.Vacant := by
  cases raw <;> simp [RawKeyPair.isEmpty, RawKeyPair.Vacant]

theorem FallbackPolicy.skips_eq_true_iff (policy : FallbackPolicy) (candidate : Candidate σ) :
    policy.skips candidate = true ↔ policy = .deny ∧ candidate.factory.arity = 0 := by
  simp [FallbackPolicy.skips, Factory.takesSeed, and_comm]

namespace Turn

theorem level_setback (turn : Turn σ) :
    turn.setback.level = if turn.answer?.isNone then .debug else .warn := by
  rcases turn with ⟨candidate, _ | _ | _, state⟩ <;> rfl

theorem level_of_mem_announcement {turn : Turn σ} {line : LogLine} (member : line ∈ turn.announcement) :
    line.level = .warn := by
  rw [announcement] at member
  split at member
  · cases List.mem_singleton.mp member
    rfl
  · cases member

end Turn

namespace Candidate

variable {policy : FallbackPolicy} {seed : Seed} {candidate : Candidate σ}

theorem candidate_turn (policy : FallbackPolicy) (seed : Seed) (candidate : Candidate σ) (state : σ) :
    (candidate.turn policy seed state).candidate = candidate := by
  unfold turn
  split <;> rfl

theorem argument_eq (candidate : Candidate σ) (seed : Seed) :
    candidate.argument seed = if 0 < candidate.factory.arity then some seed else none := by
  simp only [argument, Factory.takesSeed, decide_eq_true_eq]

theorem turn_of_skipped (skipped : policy.skips candidate = true) (state : σ) :
    candidate.turn policy seed state = ⟨candidate, none, state⟩ :=
  if_pos ((policy.skips_eq_true_iff candidate).mp skipped)

theorem turn_of_called (allowed : policy.skips candidate = false) (world : World σ) :
    candidate.turn policy seed world.state =
      ⟨candidate, some (candidate.call seed world).value, (candidate.call seed world).world.state⟩ := by
  have used : ¬ (policy = .deny ∧ candidate.factory.arity = 0) := by
    rw [← policy.skips_eq_true_iff candidate, allowed]
    exact Bool.false_ne_true
  rw [turn, if_neg used, CandidateChain.call_apply, argument_eq]

theorem answer?_turn_eq_none_iff (candidate : Candidate σ) (policy : FallbackPolicy) (seed : Seed) (state : σ) :
    (candidate.turn policy seed state).answer? = none ↔ policy = .deny ∧ candidate.factory.arity = 0 := by
  unfold turn
  split
  · next unused => exact ⟨fun _ => unused, fun _ => rfl⟩
  · next used => exact ⟨fun absent => absurd absent (Option.some_ne_none _), fun unused => absurd unused used⟩

/-- A factory that was made to take the seed runs its body on the seed. -/
theorem turn_of_seeded {body : Seed → σ → Except FactoryError RawKeyPair × σ}
    (made : candidate.factory = .seeded body) (state : σ) :
    candidate.turn policy seed state = ⟨candidate, some (body seed state).1, (body seed state).2⟩ := by
  have used : ¬ (policy = .deny ∧ (Factory.seeded body).arity = 0) := by
    rintro ⟨_, without⟩
    exact Nat.one_ne_zero without
  rw [turn, made, if_neg used]
  rfl

end Candidate

/-! ## Many turns -/

namespace CandidateChain

/-- What was seen of turns none of which gave a key pair. -/
structure Fruitless (seed : Seed) (turns : List (Turn σ)) (events : List Event) : Prop where
  gives : ∀ turn ∈ turns, ∀ raw, ¬ turn.Gives raw
  calls : Event.calls events = turns.filterMap (Turn.call? seed)
  log : Event.log events = turns.map Turn.setback

theorem Fruitless.cons {seed : Seed} {turn : Turn σ} {rest : List (Turn σ)} {events : List Event}
    (onward : Fruitless seed rest events) (shown : List Event) (gives : ∀ raw, ¬ turn.Gives raw)
    (calls : Event.calls shown = (turn.call? seed).toList) (log : Event.log shown = [turn.setback]) :
    Fruitless seed (turn :: rest) (shown ++ events) where
  gives := List.forall_mem_cons.mpr ⟨gives, onward.gives⟩
  calls := by
    rw [Event.calls_append, calls, onward.calls]
    cases called : turn.call? seed with
    | none => rw [List.filterMap_cons_none called]; rfl
    | some call => rw [List.filterMap_cons_some called]; rfl
  log := by rw [Event.log_append, log, onward.log]; rfl

/-- A turn whose answer is no key pair, and the line that says so. -/
theorem setback_of_verdict {candidate : Candidate σ} {answer : Except FactoryError RawKeyPair} {line : LogLine}
    (judged : candidate.verdict answer = .error line) (state : σ) :
    (∀ raw, ¬ Turn.Gives ⟨candidate, some answer, state⟩ raw) ∧
      Turn.setback ⟨candidate, some answer, state⟩ = line := by
  rcases Candidate.verdict_error judged with ⟨error, rfl, rfl⟩ | ⟨raw, rfl, empty, rfl⟩
  · refine ⟨?_, rfl⟩
    rintro raw ⟨answered, _⟩
    cases answered
  · refine ⟨?_, rfl⟩
    rintro other ⟨answered, content⟩
    cases answered
    exact content ((RawKeyPair.isEmpty_eq_true_iff raw).mp empty)

/-- Candidates that were passed over have had their turns. -/
theorem PassedOver.fruitless {policy : FallbackPolicy} {seed : Seed} {candidates : List (Candidate σ)}
    {world last : World σ} {events : List Event}
    (passed : PassedOver policy seed candidates world last events) :
    Fruitless seed (turns policy seed candidates world.state) events ∧
      last =
        { world with state := stateAfter Turn.state (turns policy seed candidates world.state) world.state } := by
  induction passed with
  | nobody =>
    refine ⟨⟨?_, rfl, rfl⟩, rfl⟩
    intro turn member
    cases member
  | @skipped candidate rest world last events skipped _ inductionHypothesis =>
    rcases inductionHypothesis with ⟨onward, ended⟩
    have turn : candidate.turn policy seed world.state = ⟨candidate, none, world.state⟩ :=
      Candidate.turn_of_skipped skipped world.state
    rw [turns, rehearse, turn]
    constructor
    · apply onward.cons [.logged (.factorySkipped candidate.name)] ?_ rfl rfl
      rintro raw ⟨answered, _⟩
      cases answered
    · exact ended
  | @setback candidate rest world last events line allowed judged _ inductionHypothesis =>
    rcases inductionHypothesis with ⟨onward, ended⟩
    rw [turns, rehearse, Candidate.turn_of_called allowed world]
    rcases setback_of_verdict judged (candidate.call seed world).world.state with ⟨gives, told⟩
    constructor
    · apply onward.cons [.called candidate.name (candidate.argument seed), .logged line] gives
      · rw [Candidate.argument_eq]
        rfl
      · exact congrArg (fun line => [line]) told.symm
    · exact ended

/-- A turn whose answer is a key pair with something in it. -/
theorem gives_of_verdict {candidate : Candidate σ} {answer : Except FactoryError RawKeyPair}
    {derivation : Derivation} (judged : candidate.verdict answer = .ok derivation) (state : σ) :
    Turn.Gives ⟨candidate, some answer, state⟩ derivation.raw := by
  rcases Candidate.verdict_ok judged with ⟨answered, content, _⟩
  refine ⟨congrArg some answered, ?_⟩
  rw [← RawKeyPair.isEmpty_eq_true_iff, content]
  exact Bool.false_ne_true

theorem log_announce {candidate : Candidate σ} {answer : Except FactoryError RawKeyPair}
    {derivation : Derivation} (judged : candidate.verdict answer = .ok derivation) (state : σ)
    (world : World σ) :
    Event.log (derivation.announce world).events =
      Turn.announcement ⟨candidate, some answer, state⟩ := by
  rcases Candidate.verdict_ok judged with ⟨_, _, name, bound⟩
  rw [Derivation.announce, Turn.announcement, bound, name]
  cases arity : candidate.factory.arity with
  | zero =>
    have without : candidate.factory.takesSeed = false := by
      rw [Factory.takesSeed, arity]
      rfl
    rw [without]
    rfl
  | succ more =>
    have takes : candidate.factory.takesSeed = true := by
      rw [Factory.takesSeed, arity]
      exact decide_eq_true (Nat.succ_pos more)
    rw [takes]
    rfl

/-- A turn is taken in the state that the turns before it leave. -/
theorem turns_split {policy : FallbackPolicy} {seed : Seed} {before after : List (Candidate σ)}
    {winner : Candidate σ} {world next : World σ}
    (reached : next =
      { world with state := stateAfter Turn.state (turns policy seed before world.state) world.state })
    (allowed : policy.skips winner = false) :
    turns policy seed (before ++ winner :: after) world.state =
      turns policy seed before world.state ++
        ⟨winner, some (winner.call seed next).value, (winner.call seed next).world.state⟩ ::
          turns policy seed after (winner.call seed next).world.state := by
  have left : stateAfter Turn.state (turns policy seed before world.state) world.state = next.state := by
    rw [reached]
  rw [turns, rehearse_append, rehearse, ← turns, left, Candidate.turn_of_called allowed next]

/-- Take any candidates, any policy, any seed and any world.  A chain takes the turns of its candidates in
order, up to and including the first that gives a key pair with something in it, and returns that key pair
with the name of the factory and whether the factory declares an argument; or it takes all turns in vain and
says that no function is compatible.  Each turn that was taken is one call, with the seed for a factory that
declares an argument and without it for another, unless the policy lets it pass unused.  Each fruitless turn
is one line, at debug level if it passed unused and a warning if not; the turn that gives the key pair is no
line, or a warning if the factory has no argument.  A factory that was made to take the seed always runs its
body on the seed. -/
theorem first_key_pair_ends_the_chain (policy : FallbackPolicy) (seed : Seed)
    (candidates : List (Candidate σ)) (world : World σ) :
    let ending := derive ⟨candidates, policy⟩ seed world
    let turns := turns policy seed candidates world.state
    turns.map Turn.candidate = candidates ∧
    ((∃ before winner after raw, turns = before ++ winner :: after ∧
        (∀ turn ∈ before, ∀ other, ¬ turn.Gives other) ∧ winner.Gives raw ∧
        ending.value =
          .ok ⟨raw, winner.candidate.name, decide (0 < winner.candidate.factory.arity)⟩ ∧
        ending.world = { world with state := winner.state } ∧
        Event.calls ending.events = (before ++ [winner]).filterMap (Turn.call? seed) ∧
        Event.log ending.events = before.map Turn.setback ++ winner.announcement) ∨
      ((∀ turn ∈ turns, ∀ raw, ¬ turn.Gives raw) ∧
        ending.value = .error (.keyGenerationFailed "compatible function not found") ∧
        ending.world = { world with state := stateAfter Turn.state turns world.state } ∧
        Event.calls ending.events = turns.filterMap (Turn.call? seed) ∧
        Event.log ending.events = turns.map Turn.setback)) ∧
    (∀ turn ∈ turns, turn.answer? = none ↔ policy = .deny ∧ turn.candidate.factory.arity = 0) ∧
    (∀ turn ∈ turns, turn.setback.level = (if turn.answer?.isNone then .debug else .warn) ∧
      ∀ line ∈ turn.announcement, line.level = .warn) ∧
    (∀ turn ∈ turns, ∀ body, turn.candidate.factory = .seeded body →
      ∃ state, turn.answer? = some (body seed state).1 ∧ turn.state = (body seed state).2) := by
  intro ending rehearsed
  refine ⟨map_rehearse (Candidate.candidate_turn policy seed) candidates world.state,
    ?course, ?unused, ?levels, ?seeded⟩
  case course =>
    -- How the chain ended is known without the rehearsal; its turns are recognised afterwards.
    have ended : Tried policy seed candidates world ending := tried policy seed candidates world
    generalize ending = reached at ended ⊢
    cases ended with
    | exhausted passed =>
      rcases passed.fruitless with ⟨vain, last⟩
      exact Or.inr ⟨vain.gives, rfl, last, vain.calls, vain.log⟩
    | @derived before after winner next events derivation order passed allowed judged =>
      rcases passed.fruitless with ⟨vain, reached⟩
      rcases Candidate.verdict_ok judged with ⟨_, _, name, bound⟩
      -- The rehearsal goes on after the winner, so only its beginning is the course of the chain.
      have split : rehearsed = _ :=
        (congrArg (turns policy seed · world.state) order).trans (turns_split reached allowed)
      refine Or.inl ⟨_, _, _, derivation.raw, split, vain.gives, gives_of_verdict judged _, ?value, ?world,
        ?calls, ?log⟩
      case value =>
        rcases derivation with ⟨raw, factory, deterministic⟩
        subst name bound
        rfl
      case world =>
        rw [reached]
        rfl
      case calls =>
        rw [Event.calls_append, vain.calls, List.filterMap_append]
        refine congrArg (_ ++ ·) ?_
        show (winner.name, winner.argument seed) :: Event.calls (derivation.announce next).events = _
        rw [calls_announce, Candidate.argument_eq]
        rfl
      case log =>
        rw [Event.log_append, vain.log]
        refine congrArg (_ ++ ·) ?_
        show Event.log (derivation.announce next).events = _
        exact log_announce judged _ next
  case unused =>
    intro turn member
    rcases exists_state_of_mem_rehearse member with ⟨candidate, _, state, rfl⟩
    rw [Candidate.candidate_turn]
    exact candidate.answer?_turn_eq_none_iff policy seed state
  case levels =>
    intro turn _
    exact ⟨turn.level_setback, fun _ => Turn.level_of_mem_announcement⟩
  case seeded =>
    intro turn member body made
    rcases exists_state_of_mem_rehearse member with ⟨candidate, _, state, rfl⟩
    rw [Candidate.candidate_turn] at made
    rw [Candidate.turn_of_seeded made]
    exact ⟨state, rfl, rfl⟩

end CandidateChain
end NodeKeys
