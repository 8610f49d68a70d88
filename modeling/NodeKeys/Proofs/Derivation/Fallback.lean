import NodeKeys.Proofs.Derivation

/-!
# Denying the fallback amounts to removing the factories without a seed

A chain that denies the fallback walks past every factory that takes no seed.  A chain that allows it, on the
module without these factories, never meets them.  All factories work on one state, and the two chains call
them from the same world only as long as they have called the same ones before.  So the comparison is of whole
runs, from any world: what comes out, the world that is left, and the events in between.

The events agree up to the lines about the factories that were passed over.  Nothing else is dropped.
-/

namespace NodeKeys

variable {σ α : Type}

/-! ## The module without factories that take no seed -/

namespace Module

/-- Whether a factory that takes no seed is exported under this name. -/
def exportsUnseeded (module : Module σ) (name : String) : Bool :=
  match module.factory? name with
  | some factory => !factory.takesSeed
  | none => false

/-- The module without the factories that take no seed.  Nested modules stay as they are. -/
def withoutUnseeded (module : Module σ) : Module σ :=
  mk module.name (module.exports.filter fun entry => !module.exportsUnseeded entry.1)

theorem get?_withoutUnseeded (module : Module σ) (name : String) :
    module.withoutUnseeded.get? name =
      if module.exportsUnseeded name then none else module.get? name := by
  have kept := Table.find?_filter (fun name => !module.exportsUnseeded name) name module.exports
  cases removed : module.exportsUnseeded name <;> rw [removed] at kept <;> exact kept

theorem factory?_withoutUnseeded (module : Module σ) (name : String) :
    module.withoutUnseeded.factory? name = (module.factory? name).filter Factory.takesSeed := by
  have looked := module.get?_withoutUnseeded name
  cases exported : module.factory? name with
  | none =>
    have kept : module.exportsUnseeded name = false := by rw [exportsUnseeded, exported]
    rw [kept, if_neg Bool.false_ne_true] at looked
    rw [factory?, looked]
    exact exported
  | some factory =>
    have removed : module.exportsUnseeded name = !factory.takesSeed := by rw [exportsUnseeded, exported]
    rw [removed] at looked
    rw [factory?, looked, Option.filter_some]
    cases factory.takesSeed with
    | true => exact exported
    | false => rfl

end Module

theorem resolveCandidates_withoutUnseeded (handle : Module σ) :
    resolveCandidates handle.withoutUnseeded =
      (resolveCandidates handle).filter fun candidate => candidate.factory.takesSeed := by
  unfold resolveCandidates candidatesNamed
  rw [List.filter_filterMap]
  refine congrArg (factoryPriority.filterMap ·) (funext fun name => ?_)
  rw [Module.factory?_withoutUnseeded]
  cases handle.factory? name with
  | none => rfl
  | some factory =>
    rw [Option.map_some, Option.filter_some, Option.filter_some]
    cases factory.takesSeed <;> rfl

/-! ## Lines about factories that were passed over -/

/-- Whether the line is about a factory that was passed over. -/
def LogLine.isSkip : LogLine → Bool
  | factorySkipped _ => true
  | _ => false

namespace Event

def isSkip : Event → Bool
  | logged line => line.isSkip
  | _ => false

/-- The events without the lines about factories that were passed over. -/
def withoutSkips (events : List Event) : List Event :=
  events.filter fun event => !event.isSkip

theorem calls_withoutSkips (events : List Event) : calls (withoutSkips events) = calls events := by
  unfold calls withoutSkips
  rw [List.filterMap_filter]
  refine congrArg (events.filterMap ·) (funext fun event => ?_)
  cases event with
  | logged line => cases skipped : line.isSkip <;> simp [isSkip, skipped]
  | _ => rfl

theorem log_withoutSkips (events : List Event) :
    log (withoutSkips events) = (log events).filter fun line => !line.isSkip := by
  unfold log withoutSkips
  rw [List.filterMap_filter, List.filter_filterMap]
  refine congrArg (events.filterMap ·) (funext fun event => ?_)
  cases event with
  | logged line =>
    rw [Option.filter_some]
    rfl
  | _ => rfl

theorem withoutSkips_cons {event : Event} (shown : event.isSkip = false) (events : List Event) :
    withoutSkips (event :: events) = event :: withoutSkips events :=
  List.filter_cons_of_pos (by rw [shown]; rfl)

end Event

/-- How the run ends if the lines about factories that were passed over are left out. -/
def Ending.withoutSkips (ending : Ending σ α) : Ending σ α :=
  { ending with events := Event.withoutSkips ending.events }

/-! ## The two chains -/

namespace CandidateChain

theorem isSkip_of_setback {candidate : Candidate σ} {answer : Except FactoryError RawKeyPair}
    {line : LogLine} (judged : candidate.verdict answer = .error line) : line.isSkip = false := by
  cases answer with
  | error error =>
    cases judged
    rfl
  | ok raw =>
    cases empty : raw.isEmpty with
    | true =>
      simp only [Candidate.verdict, empty, if_true] at judged
      cases judged
      rfl
    | false =>
      simp only [Candidate.verdict, empty, Bool.false_eq_true, if_false] at judged
      cases judged

theorem withoutSkips_announce (derivation : Derivation) (world : World σ) :
    Event.withoutSkips (derivation.announce world).events = (derivation.announce world).events := by
  unfold Derivation.announce
  split <;> rfl

/-- From every world, a chain that denies the fallback runs like the chain of its candidates that take the
seed. -/
theorem deriveFrom_deny_withoutSkips (seed : Seed) (candidates : List (Candidate σ)) (world : World σ) :
    (deriveFrom .deny seed candidates world).withoutSkips =
      deriveFrom .allow seed (candidates.filter fun candidate => candidate.factory.takesSeed) world := by
  induction candidates generalizing world with
  | nil => rfl
  | cons candidate rest inductionHypothesis =>
    cases takes : candidate.factory.takesSeed with
    | false =>
      have skipped : FallbackPolicy.deny.skips candidate = true := by simp [FallbackPolicy.skips, takes]
      rw [deriveFrom_skip skipped, List.filter_cons, takes]
      exact inductionHypothesis world
    | true =>
      have called (policy : FallbackPolicy) : policy.skips candidate = false := by
        simp [FallbackPolicy.skips, takes]
      rw [List.filter_cons, takes, if_pos rfl]
      have shownCall : (Event.called candidate.name (candidate.argument seed)).isSkip = false := rfl
      cases judged : candidate.verdict (candidate.call seed world).value with
      | error line =>
        have shownLine : (Event.logged line).isSkip = false := isSkip_of_setback judged
        have later := inductionHypothesis (candidate.call seed world).world
        rw [deriveFrom_setback (called _) judged, deriveFrom_setback (called _) judged, ← later]
        unfold Ending.withoutSkips
        rw [Event.withoutSkips_cons shownCall, Event.withoutSkips_cons shownLine]
      | ok derivation =>
        rw [deriveFrom_success (called _) judged, deriveFrom_success (called _) judged]
        unfold Ending.withoutSkips
        rw [Event.withoutSkips_cons shownCall, withoutSkips_announce]

/-- Take any module, any seed and any world.  Deriving without fallback returns the same and leaves the same
world as deriving with fallback on the module without the factories that take no seed; it calls the same
factories in the same order with the same arguments, and the events differ only in the lines about factories
that were passed over.  Hence every factory that is called without fallback is given the seed, and every key
pair that is derived is bound to it. -/
theorem deny_eq_allow_withoutUnseeded (handle : Module σ) (seed : Seed) (world : World σ) :
    let denied := (forHandle handle .deny).derive seed world
    let allowed := (forHandle handle.withoutUnseeded .allow).derive seed world
    denied.value = allowed.value ∧
    denied.world = allowed.world ∧
    Event.calls denied.events = Event.calls allowed.events ∧
    ((Event.log denied.events).filter fun line => !line.isSkip) = Event.log allowed.events ∧
    (denied.events.filter fun event => !event.isSkip) = allowed.events ∧
    (∀ name argument, (name, argument) ∈ Event.calls denied.events →
      argument = some seed ∧ ∃ factory, handle.factory? name = some factory ∧ 0 < factory.arity) ∧
    ∀ derivation, denied.value = .ok derivation → derivation.deterministic = true := by
  intro denied allowed
  have same : denied.withoutSkips = allowed := by
    have candidates := resolveCandidates_withoutUnseeded handle
    change (deriveFrom .deny seed (resolveCandidates handle) world).withoutSkips =
      deriveFrom .allow seed (resolveCandidates handle.withoutUnseeded) world
    rw [candidates, deriveFrom_deny_withoutSkips]
  have value := congrArg Ending.value same
  have left := congrArg Ending.world same
  have events : Event.withoutSkips denied.events = allowed.events := congrArg Ending.events same
  refine ⟨value, left, ?calls, ?log, events, ?seeded, ?bound⟩
  case calls => rw [← events, Event.calls_withoutSkips]
  case log => rw [← events, Event.log_withoutSkips]
  case seeded =>
    intro name argument called
    rcases mem_calls_deriveFrom called with ⟨candidate, member, skipped, call⟩
    cases call
    have takes := takesSeed_of_deny skipped
    refine ⟨if_pos takes, candidate.factory, (mem_candidatesNamed.mp member).2, ?_⟩
    exact of_decide_eq_true takes
  case bound =>
    intro derivation derived
    exact deterministic_of_deny derived

end CandidateChain
end NodeKeys
