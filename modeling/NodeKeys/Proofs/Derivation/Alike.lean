import NodeKeys.Proofs.Derivation
import NodeKeys.Proofs.RawKeyPair.Visible

/-!
# Derivations that cannot be told apart

Two modules may offer factories that differ in what their key pairs hide, and in the way in which they keep their
state.  The two states have no type in common.  What ties them together is any relation that the factories
keep, and nothing is said about it otherwise.

A chain over the one module and a chain over the other then show the same calls and the same log, and end
with derivations of which the same is visible.
-/

namespace NodeKeys

open RawKeyPair

variable {σ τ α β γ δ ε : Type} {related : σ → τ → Prop}

/-! ## Runs that cannot be told apart -/

/-- Both fail with the same error, or both succeed, with values of which this holds. -/
inductive SameEnd (values : α → β → Prop) : Except ε α → Except ε β → Prop
  | error (error : ε) : SameEnd values (.error error) (.error error)
  | ok {value : α} {other : β} (same : values value other) : SameEnd values (.ok value) (.ok other)

/-- From related states, the runs show the same, end with values of which this holds, and leave related
states. -/
def Run.Alike (related : σ → τ → Prop) (values : α → β → Prop) (first : Run σ α) (second : Run τ β) :
    Prop :=
  ∀ world other, related world.state other.state →
    (first world).events = (second other).events ∧
    values (first world).value (second other).value ∧
    related (first world).world.state (second other).world.state

namespace Run

variable {values : α → β → Prop} {results : γ → δ → Prop}

theorem alike_pure {value : α} {other : β} (same : values value other) :
    Alike related values (pure value : Run σ α) (pure other : Run τ β) :=
  fun _ _ together => ⟨rfl, same, together⟩

theorem alike_bind {first : Run σ α} {second : Run τ β} {next : α → Run σ γ} {onward : β → Run τ δ}
    (before : Alike related values first second)
    (after : ∀ value other, values value other → Alike related results (next value) (onward other)) :
    Alike related results (first >>= next) (second >>= onward) := by
  intro world other together
  rcases before world other together with ⟨shown, same, related⟩
  rcases after _ _ same _ _ related with ⟨shownAfter, sameAfter, relatedAfter⟩
  rw [bind_apply, bind_apply]
  refine ⟨?_, sameAfter, relatedAfter⟩
  rw [shown, shownAfter]

theorem alike_emit (event : Event) :
    Alike related (fun _ _ => True) (emit event : Run σ Unit) (emit event : Run τ Unit) :=
  fun _ _ together => ⟨rfl, trivial, together⟩

theorem alike_act {action : σ → α × σ} {other : τ → β × τ}
    (same : ∀ state matching, related state matching →
      values (action state).1 (other matching).1 ∧ related (action state).2 (other matching).2) :
    Alike related values (act action) (act other) := by
  intro world matching together
  rcases same _ _ together with ⟨value, left⟩
  exact ⟨rfl, value, left⟩

end Run

open Run

/-! ## Factories that differ in what they hide -/

/-- The factories take as many arguments, and from related states they fail with the same error or return key
pairs of which the same is visible. -/
structure Factory.Alike (related : σ → τ → Prop) (first : Factory σ) (second : Factory τ) : Prop where
  arity : first.arity = second.arity
  answers : ∀ argument state other, related state other →
    SameEnd (fun raw matching => raw.visible = matching.visible)
        (first.body argument state).1 (second.body argument other).1 ∧
      related (first.body argument state).2 (second.body argument other).2

/-- Under each name, the modules export factories alike, or neither exports a factory. -/
def Module.OffersAlike (related : σ → τ → Prop) (first : Module σ) (second : Module τ) : Prop :=
  ∀ name, Option.Rel (Factory.Alike related) (first.factory? name) (second.factory? name)

/-- The derivation with what is visible of its key pair. -/
def Derivation.visible (derivation : Derivation) : Derivation :=
  { derivation with raw := derivation.raw.visible }

theorem Derivation.parts_of_visible {derivation matching : Derivation}
    (same : derivation.visible = matching.visible) :
    derivation.raw.visible = matching.raw.visible ∧ derivation.factory = matching.factory ∧
      derivation.deterministic = matching.deterministic :=
  Derivation.mk.inj same

namespace Factory.Alike

variable {first : Factory σ} {second : Factory τ}

theorem takesSeed (alike : first.Alike related second) : first.takesSeed = second.takesSeed := by
  rw [Factory.takesSeed, Factory.takesSeed, alike.arity]

theorem call (alike : first.Alike related second) (name : String) (seed : Seed) :
    Run.Alike related (SameEnd fun raw matching => raw.visible = matching.visible)
      (Candidate.call ⟨name, first⟩ seed) (Candidate.call ⟨name, second⟩ seed) := by
  have argument : Candidate.argument ⟨name, first⟩ seed = Candidate.argument ⟨name, second⟩ seed := by
    simp only [Candidate.argument, alike.takesSeed]
  unfold Candidate.call
  rw [argument]
  exact alike_bind (alike_emit _) fun _ _ _ => alike_act (alike.answers _)

theorem verdict (alike : first.Alike related second) (name : String)
    {answer other : Except FactoryError RawKeyPair}
    (same : SameEnd (fun raw matching => raw.visible = matching.visible) answer other) :
    SameEnd (fun derivation matching => derivation.visible = matching.visible)
      (Candidate.verdict ⟨name, first⟩ answer) (Candidate.verdict ⟨name, second⟩ other) := by
  cases same with
  | error error => exact .error _
  | @ok raw matching same =>
    have empty : raw.isEmpty = matching.isEmpty := by
      rw [← isEmpty_visible, same, isEmpty_visible]
    simp only [Candidate.verdict, empty]
    cases matching.isEmpty with
    | true => exact .error _
    | false =>
      refine .ok ?_
      simp only [Derivation.visible, same, alike.takesSeed]

end Factory.Alike

/-! ## Chains of factories -/

namespace CandidateChain

theorem announce_alike {derivation matching : Derivation}
    (same : derivation.visible = matching.visible) :
    Run.Alike related (fun _ _ => True) (derivation.announce : Run σ Unit)
      (matching.announce : Run τ Unit) := by
  rcases Derivation.parts_of_visible same with ⟨_, name, bound⟩
  unfold Derivation.announce
  rw [name, bound]
  split
  · exact alike_pure trivial
  · exact alike_emit _

/-- Chains whose first candidates are alike are alike if the rests are. -/
theorem deriveFrom_cons_alike {first : Factory σ} {second : Factory τ}
    (alike : first.Alike related second) (name : String) {policy : FallbackPolicy} {seed : Seed}
    {rest : List (Candidate σ)} {others : List (Candidate τ)}
    (onward : Run.Alike related
      (SameEnd fun derivation matching => derivation.visible = matching.visible)
      (deriveFrom policy seed rest) (deriveFrom policy seed others)) :
    Run.Alike related (SameEnd fun derivation matching => derivation.visible = matching.visible)
      (deriveFrom policy seed (⟨name, first⟩ :: rest))
      (deriveFrom policy seed (⟨name, second⟩ :: others)) := by
  have skips : policy.skips ⟨name, first⟩ = policy.skips ⟨name, second⟩ := by
    simp only [FallbackPolicy.skips, alike.takesSeed]
  rw [deriveFrom_cons, deriveFrom_cons, skips]
  split
  · exact alike_bind (alike_emit _) fun _ _ _ => onward
  · refine alike_bind (alike.call name seed) fun answer other same => ?_
    have judged := alike.verdict name same
    generalize Candidate.verdict ⟨name, first⟩ answer = verdict at judged ⊢
    generalize Candidate.verdict ⟨name, second⟩ other = matching at judged ⊢
    cases judged with
    | error line => exact alike_bind (alike_emit _) fun _ _ _ => onward
    | ok same => exact alike_bind (announce_alike same) fun _ _ _ => alike_pure (.ok same)

theorem deriveFrom_alike {first : Module σ} {second : Module τ}
    (offers : first.OffersAlike related second) (policy : FallbackPolicy) (seed : Seed)
    (names : List String) :
    Run.Alike related (SameEnd fun derivation matching => derivation.visible = matching.visible)
      (deriveFrom policy seed (candidatesNamed names first))
      (deriveFrom policy seed (candidatesNamed names second)) := by
  induction names with
  | nil => exact alike_pure (.error _)
  | cons name rest inductionHypothesis =>
    have offered := offers name
    simp only [candidatesNamed, List.filterMap_cons]
    generalize first.factory? name = found at offered ⊢
    generalize second.factory? name = matching at offered ⊢
    cases offered with
    | none => exact inductionHypothesis
    | some alike => exact deriveFrom_cons_alike alike name inductionHypothesis

end CandidateChain

end NodeKeys
