import NodeKeys.Loader.Basic
import NodeKeys.Proofs.Loader.Attempt
import NodeKeys.Proofs.Loader.Selection
import NodeKeys.Proofs.Rehearsal

/-!
# What a complete attempt does

In the rehearsal of an attempt the package of every step is imported.  Each import is a trial: it is usable if
it brings a module in which the path of the step leads to a module with exports.  Importing the same package
again may bring another answer, so a trial belongs to a step and to the state in which it was made.

The attempt makes these trials in the same order and stops after the first that is usable.  Which packages it
imports, what it returns, which lines it logs and in which state it ends can all be read off the rehearsal.
-/

namespace NodeKeys

variable {σ : Type}

/-- The module that counts as the implementation once this one is selected: its ML-DSA-65 variant if it has one
with exports, and else the selected module itself. -/
def Module.Implements (implementation selected : Module σ) : Prop :=
  (selected.submodule? Loader.variantExport = some implementation ∧ implementation.exports ≠ []) ∨
    ((∀ variant, selected.submodule? Loader.variantExport = some variant → variant.exports = []) ∧
      implementation = selected)

/-- Whatever counts as the implementation has exports. -/
theorem Module.Implements.exports_ne_nil {implementation selected : Module σ}
    (implements : implementation.Implements selected) (usable : selected.exports ≠ []) :
    implementation.exports ≠ [] := by
  rcases implements with ⟨_, filled⟩ | ⟨_, rfl⟩
  · exact filled
  · exact usable

namespace Loader

/-- The import that was made for a step. -/
structure Trial (σ : Type) where
  step : Step
  answer : Answer σ
  /-- The state after the answer. -/
  state : σ

namespace Trial

/-- The import brought a module in which the path of the step leads to this one, and it has exports. -/
def Selects (trial : Trial σ) (selected : Module σ) : Prop :=
  ∃ imported, trial.answer = .ok (some imported) ∧
    imported.descend? trial.step.access.path = some selected ∧ selected.exports ≠ []

/-- The line about a trial that was of no use. -/
def setback (trial : Trial σ) : LogLine :=
  match trial.answer with
  | .error error => .stepFailed trial.step error
  | .ok none => .stepEmpty trial.step
  | .ok (some _) => .stepUnusable trial.step

/-- What is seen of a trial that was of no use. -/
def events (trial : Trial σ) : List Event :=
  [.imported trial.step.specifier, .logged trial.setback]

end Trial

/-- Import the package of a step in a state. -/
def Step.trial (source : Source σ) (step : Step) (state : σ) : Trial σ :=
  let started := source.start step.specifier state
  let answered := started.1.answer started.2
  ⟨step, answered.1, answered.2⟩

/-- The imports for all steps, one after the other. -/
def trials (source : Source σ) : List Step → σ → List (Trial σ) :=
  rehearse (Step.trial source) Trial.state

/-! ## One trial -/

theorem implements_preferredVariant (selected : Module σ) : (preferredVariant selected).Implements selected := by
  unfold preferredVariant
  cases found : selected.submodule? variantExport with
  | none =>
    refine Or.inr ⟨?_, rfl⟩
    intro variant offered
    rw [found] at offered
    cases offered
  | some variant =>
    dsimp only
    cases empty : variant.isEmpty with
    | true =>
      refine Or.inr ⟨?_, rfl⟩
      intro other offered
      cases found.symm.trans offered
      exact List.isEmpty_iff.mp empty
    | false => exact Or.inl ⟨found, (exports_ne_nil_iff variant).mpr empty⟩

section Trials

variable {source : Source σ} (total : Nat) {step : Step} {world : World σ}

theorem tryItem_apply (source : Source σ) (total : Nat) (step : Step) (world : World σ) :
    (source.search total).tryItem step world =
      let considered := consider step (step.trial source world.state).answer
        { world with state := (step.trial source world.state).state }
      ⟨considered.value, considered.world, .imported step.specifier :: considered.events⟩ := rfl

/-- A trial that is of no use is logged, and nothing else comes of it. -/
theorem tryItem_of_useless (useless : ∀ selected, ¬ (step.trial source world.state).Selects selected) :
    (source.search total).tryItem step world =
      ⟨none, { world with state := (step.trial source world.state).state },
        (step.trial source world.state).events⟩ := by
  have told : (step.trial source world.state).step = step := rfl
  rw [tryItem_apply]
  generalize step.trial source world.state = trial at useless told ⊢
  rcases trial with ⟨step, error | _ | imported, state⟩
  · cases told
    rfl
  · cases told
    rfl
  · cases told
    have nothing : step.access.select imported = none := by
      apply Option.eq_none_iff_forall_ne_some.mpr
      intro selected found
      exact useless selected ⟨imported, rfl, (select_eq_some_iff step.access imported selected).mp found⟩
    simp only [consider, nothing]
    rfl

/-- A trial that is usable gives the handle of a new implementation. -/
theorem tryItem_of_selects {selected : Module σ} (selects : (step.trial source world.state).Selects selected) :
    (source.search total).tryItem step world =
      ⟨some ⟨world.handles, preferredVariant selected⟩,
        { state := (step.trial source world.state).state, handles := world.handles + 1 },
        [.imported step.specifier, .logged (.resolved step (preferredVariant selected).name)]⟩ := by
  rcases selects with ⟨imported, answered, reached⟩
  have found := (select_eq_some_iff step.access imported selected).mpr reached
  rw [tryItem_apply, answered]
  simp only [consider, found]
  rfl

end Trials

/-! ## Many trials -/

theorem imports_flatMap_events (trials : List (Trial σ)) :
    Event.imports (trials.flatMap Trial.events) = trials.map fun trial => trial.step.specifier := by
  induction trials with
  | nil => rfl
  | cons trial rest inductionHypothesis =>
    rw [List.flatMap_cons, Event.imports_append, inductionHypothesis]
    rfl

theorem log_flatMap_events (trials : List (Trial σ)) :
    Event.log (trials.flatMap Trial.events) = trials.map Trial.setback := by
  induction trials with
  | nil => rfl
  | cons trial rest inductionHypothesis =>
    rw [List.flatMap_cons, Event.log_append, inductionHypothesis]
    rfl

theorem calls_flatMap_events (trials : List (Trial σ)) :
    Event.calls (trials.flatMap Trial.events) = [] := by
  induction trials with
  | nil => rfl
  | cons trial rest inductionHypothesis =>
    rw [List.flatMap_cons, Event.calls_append, inductionHypothesis]
    rfl

theorem level_setback (trial : Trial σ) : trial.setback.level = .trace := by
  rcases trial with ⟨step, error | _ | imported, state⟩ <;> rfl

theorem map_level_setback (trials : List (Trial σ)) :
    (trials.map Trial.setback).map LogLine.level = List.replicate trials.length .trace := by
  induction trials with
  | nil => rfl
  | cons trial rest inductionHypothesis =>
    rw [List.map_cons, List.map_cons, inductionHypothesis, level_setback]
    rfl

/-- The ways in which a complete attempt can end. -/
inductive Ends (total : Nat) (trials : List (Trial σ)) (world : World σ) : Ending σ (Outcome σ) → Prop
  /-- No trial was usable. -/
  | exhausted (useless : ∀ trial ∈ trials, ∀ selected, ¬ trial.Selects selected) :
      Ends total trials world
        ⟨.error (exhausted total), { world with state := stateAfter Trial.state trials world.state },
          trials.flatMap Trial.events⟩
  /-- The first usable trial decided. -/
  | resolved {before after : List (Trial σ)} {last : Trial σ} {selected : Module σ}
      (order : trials = before ++ last :: after)
      (useless : ∀ trial ∈ before, ∀ other, ¬ trial.Selects other) (selects : last.Selects selected) :
      Ends total trials world
        ⟨.ok ⟨world.handles, preferredVariant selected⟩, ⟨last.state, world.handles + 1⟩,
          before.flatMap Trial.events ++ [.imported last.step.specifier,
            .logged (.resolved last.step (preferredVariant selected).name)]⟩

/-- What comes before the ways of an attempt that goes on after a useless trial. -/
theorem Ends.cons {total : Nat} {trial : Trial σ} {trials : List (Trial σ)} {world : World σ}
    {ending : Ending σ (Outcome σ)} (useless : ∀ selected, ¬ trial.Selects selected)
    (onward : Ends total trials { world with state := trial.state } ending) :
    Ends total (trial :: trials) world ⟨ending.value, ending.world, trial.events ++ ending.events⟩ := by
  cases onward with
  | exhausted vain => exact .exhausted (List.forall_mem_cons.mpr ⟨useless, vain⟩)
  | @resolved before after last selected order vain selects =>
    have split : trial :: trials = (trial :: before) ++ last :: after := congrArg (trial :: ·) order
    have ended : Ends total (trial :: trials) world _ :=
      .resolved split (List.forall_mem_cons.mpr ⟨useless, vain⟩) selects
    rw [List.flatMap_cons, List.append_assoc] at ended
    exact ended

theorem complete_ends (source : Source σ) (total : Nat) (steps : List Step) (world : World σ) :
    Ends total (trials source steps world.state) world ((source.search total).complete steps world) := by
  induction steps generalizing world with
  | nil =>
    apply Ends.exhausted
    intro trial member
    cases member
  | cons step rest inductionHypothesis =>
    by_cases usable : ∃ selected, (step.trial source world.state).Selects selected
    · rcases usable with ⟨selected, selects⟩
      have tried := tryItem_of_selects total selects
      rw [Search.complete_of_some (congrArg Ending.value tried), tried]
      have first : trials source (step :: rest) world.state =
          [] ++ step.trial source world.state :: trials source rest (step.trial source world.state).state := rfl
      apply Ends.resolved first ?_ selects
      intro trial member
      cases member
    · -- The rest starts in the state that the useless import has left, in the attempt and in the rehearsal.
      have useless := not_exists.mp usable
      have tried := tryItem_of_useless total useless
      rw [Search.complete_of_none (congrArg Ending.value tried), tried]
      have onward := inductionHypothesis { world with state := (step.trial source world.state).state }
      exact onward.cons useless

/-- Take any loader, over any source, in any world.  A complete attempt imports the packages of its steps in
order, once for each step, up to and including the first whose import is usable, and returns a new handle of the
implementation that the module selected there has; this implementation has exports.  Or it has imported the
package of every step in vain and says how many steps there were.  It logs a trace line about every import that
is of no use and a debug line about the usable one, and nothing else; it calls no factory. -/
theorem first_usable_import_ends_the_attempt (loader : Loader σ) (world : World σ) :
    let ending := loader.attempt world
    let trials := trials loader.source loader.steps world.state
    trials.map Trial.step = loader.steps ∧
    ((∃ before last after selected implementation, trials = before ++ last :: after ∧
        (∀ trial ∈ before, ∀ other, ¬ trial.Selects other) ∧ last.Selects selected ∧
        implementation.Implements selected ∧ implementation.exports ≠ [] ∧
        ending.value = .ok ⟨world.handles, implementation⟩ ∧
        ending.world = ⟨last.state, world.handles + 1⟩ ∧
        Event.imports ending.events = (before ++ [last]).map (fun trial => trial.step.specifier) ∧
        Event.log ending.events =
          before.map Trial.setback ++ [.resolved last.step implementation.name] ∧
        (Event.log ending.events).map LogLine.level = List.replicate before.length .trace ++ [.debug]) ∨
      ((∀ trial ∈ trials, ∀ selected, ¬ trial.Selects selected) ∧
        ending.value = .error (.implementationNotFound s!"tried {loader.steps.length} loader variant(s)") ∧
        ending.world = { world with state := stateAfter Trial.state trials world.state } ∧
        Event.imports ending.events = loader.steps.map Step.specifier ∧
        Event.log ending.events = trials.map Trial.setback ∧
        (Event.log ending.events).map LogLine.level = List.replicate loader.steps.length .trace)) ∧
    Event.calls ending.events = [] := by
  intro ending trials
  have named : trials.map Trial.step = loader.steps := map_rehearse (fun _ _ => rfl) loader.steps world.state
  have ends : Ends loader.steps.length trials world ending := complete_ends _ _ _ _
  -- From here on only the way in which the attempt ended counts, not how it was computed.
  generalize ending = ended at ends ⊢
  refine ⟨named, ?course, ?calls⟩
  case course =>
    cases ends with
    | exhausted useless =>
      refine Or.inr ⟨useless, rfl, rfl, ?imports, log_flatMap_events trials, ?levels⟩
      case imports => rw [imports_flatMap_events, ← named, List.map_map]; rfl
      case levels => rw [log_flatMap_events, map_level_setback, ← named, List.length_map]
    | @resolved before after last selected order useless selects =>
      have implements := implements_preferredVariant selected
      rcases selects with ⟨imported, answered, reached, usable⟩
      refine Or.inl ⟨before, last, after, selected, _, order, useless, ⟨imported, answered, reached, usable⟩,
        implements, implements.exports_ne_nil usable, rfl, rfl, ?imports, ?log, ?levels⟩
      case imports => rw [Event.imports_append, imports_flatMap_events, List.map_append]; rfl
      case log => rw [Event.log_append, log_flatMap_events]; rfl
      case levels =>
        rw [Event.log_append, log_flatMap_events, List.map_append, map_level_setback]
        rfl
  case calls =>
    cases ends with
    | exhausted => exact calls_flatMap_events trials
    | resolved => rw [Event.calls_append, calls_flatMap_events]; rfl

end Loader
end NodeKeys
