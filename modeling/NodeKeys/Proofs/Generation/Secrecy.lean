import NodeKeys.Proofs.Derivation.Alike
import NodeKeys.Proofs.Generation.Stages

/-!
# Private halves do not show

Two programs may use implementations that differ in what they hide: their factories return key pairs of which
the same is visible, while everything else, and the way in which they keep their state, is up to them.
Nobody who makes requests can tell these programs apart.  They return the same keys or the same errors, and
show the same imports, the same calls and the same log.

As with derivations, the states of the two programs are tied together by any relation that factories keep; here
packages have to keep it too.
-/

namespace NodeKeys

open Loader RawKeyPair Run

variable {σ τ : Type} {related : σ → τ → Prop}

/-! ## After loading -/

theorem publish_alike {derivation matching : Derivation} (same : derivation.visible = matching.visible)
    (seedText : String) :
    Run.Alike related Eq (publish seedText derivation : Run σ _) (publish seedText matching : Run τ _) := by
  rcases Derivation.parts_of_visible same with ⟨raw, name, bound⟩
  have extracted : derivation.raw.extractPublicKey = matching.raw.extractPublicKey := by
    rw [← extractPublicKey_visible, raw, extractPublicKey_visible]
  unfold publish
  rw [extracted, name, bound]
  split
  · exact alike_pure rfl
  · exact alike_bind (alike_emit _) fun _ _ _ => alike_bind (alike_emit _) fun _ _ _ => alike_pure rfl

theorem generateOn_alike {first : Module σ} {second : Module τ}
    (offers : first.OffersAlike related second) (policy : FallbackPolicy) (seed : Seed)
    (seedText : String) :
    Run.Alike related Eq (generateOn first policy seed seedText)
      (generateOn second policy seed seedText) := by
  refine alike_bind (CandidateChain.deriveFrom_alike offers policy seed factoryPriority)
    fun derived matching same => ?_
  cases same with
  | error error => exact alike_pure rfl
  | ok same => exact publish_alike same seedText

/-! ## Modules and packages -/

/-- Along every path of nested modules, both lead to a module or neither does, and the modules at its ends
have the same name, are both empty or not, and offer factories alike. -/
def Module.Alike (related : σ → τ → Prop) (first : Module σ) (second : Module τ) : Prop :=
  ∀ path, Option.Rel
    (fun found matching => found.name = matching.name ∧ found.isEmpty = matching.isEmpty ∧
      found.OffersAlike related matching)
    (first.descend? path) (second.descend? path)

namespace Module.Alike

variable {first : Module σ} {second : Module τ}

theorem parts (alike : first.Alike related second) :
    first.name = second.name ∧ first.isEmpty = second.isEmpty ∧ first.OffersAlike related second := by
  cases alike [] with
  | some parts => exact parts

/-- What is true of all paths is true of those behind a path. -/
theorem descend? (alike : first.Alike related second) (path : List String) :
    Option.Rel (Module.Alike related) (first.descend? path) (second.descend? path) := by
  have further (rest : List String) := alike (path ++ rest)
  simp only [descend?_append] at further
  have here := alike path
  generalize first.descend? path = found at here further ⊢
  generalize second.descend? path = matching at here further ⊢
  cases here with
  | none => exact .none
  | some _ => exact .some further

theorem select (alike : first.Alike related second) (access : Access) :
    Option.Rel (Module.Alike related) (access.select first) (access.select second) := by
  have reached : Option.Rel (Module.Alike related) (first.descend? access.path)
      (second.descend? access.path) := alike.descend? access.path
  rw [access.select_eq, access.select_eq]
  generalize first.descend? access.path = found at reached ⊢
  generalize second.descend? access.path = matching at reached ⊢
  cases reached with
  | none => exact .none
  | @some found matching alike =>
    rw [Option.filter_some, Option.filter_some, alike.parts.2.1]
    cases matching.isEmpty with
    | true => exact .none
    | false => exact .some alike

theorem preferredVariant (alike : first.Alike related second) :
    Module.Alike related (preferredVariant first) (preferredVariant second) := by
  have variant := alike.descend? [variantExport]
  unfold Loader.preferredVariant
  rw [submodule?_eq_descend?, submodule?_eq_descend?]
  generalize first.descend? [variantExport] = found at variant ⊢
  generalize second.descend? [variantExport] = matching at variant ⊢
  cases variant with
  | none => exact alike
  | @some found matching variant =>
    simp only [variant.parts.2.1]
    split
    · exact alike
    · exact variant

end Module.Alike

namespace Loader

/-- Imports of the same package lead to answers alike. -/
def Source.Alike (related : σ → τ → Prop) (first : Source σ) (second : Source τ) : Prop :=
  ∀ specifier state other, related state other →
    related (first.start specifier state).2 (second.start specifier other).2 ∧
    ∀ later matching, related later matching →
      SameEnd (Option.Rel (Module.Alike related))
          ((first.start specifier state).1.answer later).1
          ((second.start specifier other).1.answer matching).1 ∧
        related ((first.start specifier state).1.answer later).2
          ((second.start specifier other).1.answer matching).2

/-- The same error, or handles of modules that offer factories alike. -/
def Outcome.Alike (related : σ → τ → Prop) : Outcome σ → Outcome τ → Prop :=
  SameEnd fun handle matching => handle.module.OffersAlike related matching.module

theorem startImport_alike {first : Source σ} {second : Source τ} (alike : first.Alike related second)
    (specifier : String) :
    Run.Alike related
      (fun pending matching => ∀ later other, related later other →
        SameEnd (Option.Rel (Module.Alike related)) (pending.answer later).1 (matching.answer other).1 ∧
          related (pending.answer later).2 (matching.answer other).2)
      (first.startImport specifier) (second.startImport specifier) :=
  alike_bind (alike_emit _) fun _ _ _ => alike_act fun state other together =>
    ⟨(alike specifier state other together).2, (alike specifier state other together).1⟩

theorem consider_alike (step : Step) {answer : Answer σ} {other : Answer τ}
    (alike : SameEnd (Option.Rel (Module.Alike related)) answer other) :
    Run.Alike related
      (Option.Rel fun handle matching => handle.module.OffersAlike related matching.module)
      (consider step answer) (consider step other) := by
  cases alike with
  | error error => exact alike_bind (alike_emit _) fun _ _ _ => alike_pure .none
  | ok brought =>
    cases brought with
    | none => exact alike_bind (alike_emit _) fun _ _ _ => alike_pure .none
    | @some module matching alike =>
      have selected := alike.select step.access
      unfold consider
      dsimp only
      generalize step.access.select module = found at selected ⊢
      generalize step.access.select matching = reached at selected ⊢
      cases selected with
      | none => exact alike_bind (alike_emit _) fun _ _ _ => alike_pure .none
      | @some found reached alike =>
        have variant := alike.preferredVariant
        have stamped : Run.Alike related (fun _ _ => True) (Run.newHandle : Run σ Nat)
            (Run.newHandle : Run τ Nat) := fun _ _ together => ⟨rfl, trivial, together⟩
        dsimp only
        rw [variant.parts.1]
        exact alike_bind (alike_emit _) fun _ _ _ => alike_bind stamped fun _ _ _ =>
          alike_pure (.some variant.parts.2.2)

theorem complete_alike {first : Source σ} {second : Source τ} (alike : first.Alike related second)
    (total : Nat) (steps : List Step) :
    Run.Alike related (Outcome.Alike related) ((first.search total).complete steps)
      ((second.search total).complete steps) := by
  induction steps with
  | nil => exact alike_pure (.error _)
  | cons step rest inductionHypothesis =>
    refine alike_bind (startImport_alike alike step.specifier) fun pending matching same => ?_
    have concluded := alike_bind (alike_act same) fun answer other same => consider_alike step same
    refine alike_bind concluded fun decided other same => ?_
    cases same with
    | none => exact inductionHypothesis
    | some offers => exact alike_pure (.ok offers)

end Loader

/-- Loaders with the same steps and sources alike, which are both unsettled or keep outcomes alike. -/
structure Loader.Alike (related : σ → τ → Prop) (first : Loader σ) (second : Loader τ) : Prop where
  steps : first.steps = second.steps
  source : first.source.Alike related second.source
  cell : Option.Rel (Outcome.Alike related) first.cell second.cell

namespace Loader.Alike

variable {first : Loader σ} {second : Loader τ}

theorem load (alike : first.Alike related second) :
    Run.Alike related
      (fun loading matching => Outcome.Alike related loading.1 matching.1 ∧
        Loader.Alike related loading.2 matching.2)
      first.load second.load := by
  have kept := alike.cell
  unfold Loader.load
  generalize cell : first.cell = found at kept ⊢
  generalize other : second.cell = matching at kept ⊢
  cases kept with
  | some same => exact alike_pure ⟨same, alike⟩
  | none =>
    unfold Loader.attempt Loader.search
    rw [alike.steps]
    refine alike_bind (complete_alike alike.source _ _) fun outcome matching same => ?_
    exact alike_pure ⟨same, ⟨rfl, alike.source, .some same⟩⟩

theorem generate (alike : first.Alike related second) (policy : FallbackPolicy)
    (text? : Option String) (entropy : Entropy) :
    Run.Alike related
      (fun generated matching => generated.1 = matching.1 ∧
        Loader.Alike related generated.2 matching.2)
      (first.generate policy text? entropy) (second.generate policy text? entropy) := by
  unfold Loader.generate
  cases requestedSeed text? entropy with
  | error error => exact alike_pure ⟨rfl, alike⟩
  | ok requested =>
    refine alike_bind alike.load fun loading matching same => ?_
    rcases loading with ⟨outcome, loaded⟩
    rcases matching with ⟨reached, after⟩
    rcases same with ⟨same, left⟩
    cases same with
    | error error => exact alike_pure ⟨rfl, left⟩
    | ok offers =>
      refine alike_bind (generateOn_alike offers policy _ _) fun result matching same => ?_
      exact alike_pure ⟨same, left⟩

end Loader.Alike

/-! ## Requests -/

namespace Generator

/-- Take two programs whose loaders, packages and factories are alike: the same errors, the same names and
arities, and key pairs of which the same is visible.  A request has the same result in both, whatever its
seed and policy, and shows the same imports, calls and log lines.  Afterwards the programs are still alike, so
that no later request can tell them apart either. -/
theorem hidden_parts_do_not_show (generator : Generator) (text? : Option String) (entropy : Entropy)
    {loaders : Loaders σ} {others : Loaders τ} (alike : ∀ id, (loaders id).Alike related (others id))
    {world : World σ} {matching : World τ} (together : related world.state matching.state) :
    let first := generator.generate text? entropy loaders world
    let second := generator.generate text? entropy others matching
    first.value.1 = second.value.1 ∧
    first.events = second.events ∧
    (∀ id, (first.value.2 id).Alike related (second.value.2 id)) ∧
    related first.world.state second.world.state := by
  intro first second
  rcases (alike generator.loader).generate generator.policy text? entropy world matching together with
    ⟨shown, ⟨same, left⟩, after⟩
  have applied : first = _ := generator.generate_apply text? entropy loaders world
  have other : second = _ := generator.generate_apply text? entropy others matching
  rw [applied, other]
  refine ⟨same, shown, fun id => ?_, after⟩
  by_cases requested : id = generator.loader
  · subst requested
    simp only [Loaders.set, if_pos]
    exact left
  · simp only [Loaders.set, if_neg requested]
    exact alike id

/-- An implementation with one factory, which counts in its own way how often it was called.  Behind the public
half of each key pair it hides two copies of a secret. -/
def concealing (secret : Seed → RawKeyPair) (count : σ → σ) : Module σ :=
  (Module.empty "concealing").withFactory "keygen" (.seeded fun seed calls =>
    (.ok (.object [("keypair", .list [.text "public", .bytes [1, 2], secret seed]),
      ("secretKey", secret seed)]), count calls))

theorem offersAlike_concealing (secret other : Seed → RawKeyPair) (count : σ → σ) (recount : τ → τ) :
    (concealing secret count).OffersAlike (fun _ _ => True) (concealing other recount) := by
  intro name
  by_cases same : "keygen" = name
  · subst same
    refine .some ⟨rfl, fun argument state _ _ => ⟨?_, trivial⟩⟩
    cases argument with
    | none => exact .error _
    | some seed => exact .ok rfl
  · have unknown {ρ : Type} (hidden : Seed → RawKeyPair) (step : ρ → ρ) :
        (concealing hidden step).factory? name = none := by
      have absent : (concealing hidden step).get? name = none :=
        Table.find?_insert_of_ne (Ne.symm same) _ []
      rw [Module.factory?, absent]
    rw [unknown, unknown]
    exact .none

/-- A loader that keeps an implementation. -/
def keeping (module : Module σ) : Loader σ where
  source := { start := fun specifier state => (⟨0, fun later => (.error ⟨specifier, "gone"⟩, later)⟩, state) }
  steps := []
  cell := some (.ok ⟨0, module⟩)

/-- One implementation hides the seed itself and counts its calls, the other hides nothing and does not. -/
theorem hidden_parts_do_not_show_concealing :
    let seed : Seed := ⟨List.replicate 32 7, rfl⟩
    let entropy : Entropy := .giving seed
    let loaders : Loaders Nat := fun _ => keeping (concealing (fun seed => .bytes seed.bytes) (· + 1))
    let others : Loaders Unit := fun _ => keeping (concealing (fun _ => .null) id)
    let related : Nat → Unit → Prop := fun _ _ => True
    let generator : Generator := {}
    (∀ id, (loaders id).Alike related (others id)) ∧
    let first := generator.generate (some seed.text) entropy loaders ⟨0, 0⟩
    let second := generator.generate (some seed.text) entropy others ⟨(), 0⟩
    first.value.1 = second.value.1 ∧
    first.events = second.events ∧
    (∀ id, (first.value.2 id).Alike related (second.value.2 id)) ∧
    related first.world.state second.world.state := by
  intro seed entropy loaders others related generator
  have alike : ∀ id, (loaders id).Alike related (others id) := fun id =>
    { steps := rfl
      source := fun specifier state other _ => ⟨trivial, fun later matching _ => ⟨.error _, trivial⟩⟩
      cell := .some (.ok (offersAlike_concealing _ _ _ _)) }
  exact ⟨alike, hidden_parts_do_not_show generator (some seed.text) entropy alike trivial⟩

end Generator

end NodeKeys
