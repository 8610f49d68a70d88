import NodeKeys.Builtin
import NodeKeys.Proofs.Generation.Reproducibility
import NodeKeys.Proofs.Loader.Alone

/-!
# Keys from the packages that come with the program

The default steps reach the package that derives key pairs from seeds at once, because its first export is the
one that the first step asks for.  So whatever has happened before, a loader over these packages hands out that
implementation or has already done so.  Its preferred factory takes the seed.  Hence the policy makes no
difference, and the keys of a seed are those of ML-DSA-65 key generation, in every world.
-/

namespace NodeKeys

open Loader

variable {σ : Type}

/-! ## Exports -/

namespace Module

/-- A module that something was exported from is not empty. -/
theorem isEmpty_of_get? {module : Module σ} {name : String} {item : Export σ}
    (found : module.get? name = some item) : module.isEmpty = false := by
  cases exported : module.exports with
  | nil =>
    rw [get?, exported] at found
    cases found
  | cons entry rest =>
    rw [isEmpty, exported]
    rfl

end Module

namespace Builtin

/-! ## The implementation -/

def implementation : Module σ :=
  ((Module.empty "libcrux-ml-dsa/ml_dsa65").withFactory "keygen" keygen).withFactory "generate_key_pair"
    generateKeyPair

theorem get?_seededModule :
    (seededModule : Module σ).get? variantExport = some (.module implementation) :=
  Module.get?_insert_self _ _ _

theorem get?_implementation (name : String) :
    (implementation : Module σ).get? name =
      if name = "generate_key_pair" then some (.factory generateKeyPair)
      else if name = "keygen" then some (.factory keygen)
      else none := by
  unfold implementation Module.withFactory
  by_cases isSecond : name = "generate_key_pair"
  · rw [if_pos isSecond, isSecond, Module.get?_insert_self]
  · rw [if_neg isSecond, Module.get?_insert_of_ne _ isSecond]
    by_cases isFirst : name = "keygen"
    · rw [if_pos isFirst, isFirst, Module.get?_insert_self]
    · rw [if_neg isFirst, Module.get?_insert_of_ne _ isFirst]
      rfl

theorem isEmpty_implementation : (implementation : Module σ).isEmpty = false := by
  have exported : (implementation : Module σ).get? "keygen" = some (.factory keygen) :=
    get?_implementation "keygen"
  exact Module.isEmpty_of_get? exported

theorem preferredVariant_implementation :
    preferredVariant (implementation : Module σ) = implementation := by
  have plain : (implementation : Module σ).submodule? variantExport = none := by
    rw [Module.submodule?, get?_implementation]
    rfl
  rw [preferredVariant, plain]

theorem select_seededModule :
    (Access.named variantExport).select (seededModule : Module σ) = some implementation := by
  have reached : (seededModule : Module σ).submodule? variantExport = some implementation := by
    rw [Module.submodule?, get?_seededModule]
  simp only [Access.select, reached, Option.filter, isEmpty_implementation, Bool.not_false, if_true]

/-! ## Loading -/

/-- A loader over these packages that has not been settled, or has been settled with the implementation. -/
structure IsBuiltin (draw : σ → Seed × σ) (loader : Loader σ) : Prop where
  source : loader.source = Builtin.source draw
  steps : loader.steps = defaultSteps
  kept : ∀ outcome, loader.cell = some outcome → ∃ stamp, outcome = .ok ⟨stamp, implementation⟩

variable {draw : σ → Seed × σ} {loader : Loader σ}

theorem isBuiltin_loader (draw : σ → Seed × σ) : IsBuiltin draw (Builtin.loader draw) where
  source := rfl
  steps := rfl
  kept := fun _ kept => nomatch kept

/-- What resolving the implementation shows: its package is imported, and the first step leads to it. -/
def resolution : List Event :=
  [.imported seededPackage,
    .logged (.resolved ⟨seededPackage, .named variantExport⟩ "libcrux-ml-dsa/ml_dsa65")]

/-- The first step is not passed over. -/
theorem attempt_apply_of_isBuiltin (builtin : IsBuiltin draw loader) (world : World σ) :
    loader.attempt world =
      ⟨.ok ⟨world.handles, implementation⟩, { world with handles := world.handles + 1 }, resolution⟩ := by
  have answered : resolve draw seededPackage = .ok (some seededModule) := if_pos rfl
  rw [attempt, search, builtin.source, builtin.steps, defaultSteps, Search.complete]
  simp only [Run.bind_apply, Search.conclude, Source.search, Source.startImport, Builtin.source, Run.act, Run.emit,
    answered, consider, select_seededModule, preferredVariant_implementation, Run.log, Run.newHandle,
    Run.pure_apply]
  rfl

theorem attempt_of_isBuiltin (builtin : IsBuiltin draw loader) (world : World σ) :
    (loader.attempt world).value = .ok ⟨world.handles, implementation⟩ := by
  rw [attempt_apply_of_isBuiltin builtin]

theorem load_apply_of_isBuiltin (builtin : IsBuiltin draw loader) (world : World σ) :
    ∃ stamp, (loader.load world).value.1 = .ok ⟨stamp, implementation⟩ ∧
      (loader.load world).world.state = world.state ∧
      (loader.load world).events = if loader.isSettled then [] else resolution := by
  cases kept : loader.cell with
  | some outcome =>
    rcases builtin.kept outcome kept with ⟨stamp, rfl⟩
    refine ⟨stamp, ?_⟩
    rw [load_of_settled kept, Run.pure_apply, isSettled, kept]
    exact ⟨rfl, rfl, rfl⟩
  | none =>
    refine ⟨world.handles, ?_⟩
    rw [load_of_unsettled kept, attempt_apply_of_isBuiltin builtin, isSettled, kept]
    exact ⟨rfl, rfl, rfl⟩

theorem load_of_isBuiltin (builtin : IsBuiltin draw loader) (world : World σ) :
    ∃ stamp, (loader.load world).value.1 = .ok ⟨stamp, implementation⟩ := by
  rcases load_apply_of_isBuiltin builtin world with ⟨stamp, loaded, _⟩
  exact ⟨stamp, loaded⟩

/-- A load leaves such a loader as it should be. -/
theorem IsBuiltin.load (builtin : IsBuiltin draw loader) (world : World σ) :
    IsBuiltin draw (loader.load world).value.2 := by
  cases kept : loader.cell with
  | some outcome =>
    rw [load_of_settled kept, Run.pure_apply]
    exact builtin
  | none =>
    -- What is kept from now on is what the attempt came to.
    rw [load_of_unsettled kept]
    refine ⟨builtin.source, builtin.steps, ?_⟩
    intro outcome settled
    cases settled
    exact ⟨world.handles, attempt_of_isBuiltin builtin world⟩

/-! ## Deriving -/

def verificationKey (seed : Seed) : String :=
  Base64Url.encode (MlDsa.generate seed.bytes).verificationKey

/-- The key pair of a seed as the preferred factory returns it. -/
def keyPairOf (seed : Seed) : RawKeyPair :=
  .ofFields [("publicKey", .bytes (MlDsa.generate seed.bytes).verificationKey),
    ("secretKey", .bytes (MlDsa.generate seed.bytes).signingKey)]

theorem field?_keyPairOf (seed : Seed) :
    (keyPairOf seed).field? "publicKey" = some (.bytes (MlDsa.generate seed.bytes).verificationKey) := by
  have differs : "publicKey" ≠ "secretKey" := by decide
  exact (Table.find?_insert_of_ne differs _ _).trans (Table.find?_insert_self _ _ _)

theorem isEmpty_keyPairOf (seed : Seed) : (keyPairOf seed).isEmpty = false := by
  have found : Table.find? "publicKey" (Table.ofEntries _) = some _ := field?_keyPairOf seed
  unfold keyPairOf RawKeyPair.ofFields RawKeyPair.isEmpty
  generalize Table.ofEntries _ = fields at found
  cases fields with
  | nil => cases found
  | cons field rest => rfl

theorem extractPublicKey_keyPairOf (seed : Seed) :
    (keyPairOf seed).extractPublicKey = .ok (MlDsa.generate seed.bytes).verificationKey := by
  have named : (keyPairOf seed).namedField = some (MlDsa.generate seed.bytes).verificationKey := by
    rw [RawKeyPair.namedField, RawKeyPair.publicKeyFields, List.findSome?_cons, field?_keyPairOf]
    rfl
  have found : (keyPairOf seed).publicKey? = some (MlDsa.generate seed.bytes).verificationKey := by
    unfold keyPairOf RawKeyPair.ofFields at named ⊢
    rw [RawKeyPair.publicKey?, named, Option.some_or]
  rw [RawKeyPair.extractPublicKey, found]

/-- The factory that takes the seed under the name `keygen` is tried first. -/
theorem resolveCandidates_implementation :
    resolveCandidates (implementation : Module σ) =
      [⟨"keygen", keygen⟩, ⟨"generate_key_pair", generateKeyPair⟩] := by
  simp [resolveCandidates, candidatesNamed, factoryPriority, Module.factory?, get?_implementation]

theorem derive_implementation (policy : FallbackPolicy) (seed : Seed) (world : World σ) :
    (CandidateChain.forHandle implementation policy).derive seed world =
      ⟨.ok ⟨keyPairOf seed, "keygen", true⟩, world, [.called "keygen" (some seed)]⟩ := by
  have judged : (Candidate.mk "keygen" keygen : Candidate σ).verdict
      ((Candidate.mk "keygen" keygen : Candidate σ).call seed world).value =
        .ok ⟨keyPairOf seed, "keygen", true⟩ := by
    rw [CandidateChain.call_apply]
    change (Candidate.mk "keygen" keygen : Candidate σ).verdict (.ok (keyPairOf seed)) = _
    rw [Candidate.verdict, isEmpty_keyPairOf]
    rfl
  rw [CandidateChain.derive, CandidateChain.forHandle, resolveCandidates_implementation]
  rw [CandidateChain.deriveFrom_success rfl judged]
  rfl

/-- What a request shows behind its load: the factory is called with the seed, and its key is reported. -/
def production (seed : Seed) : List Event :=
  [.called "keygen" (some seed),
    .logged (.generated "ML-DSA-65" (MlDsa.generate seed.bytes).verificationKey true),
    .logged (.producedBy "keygen")]

/-- The keys of a seed. -/
theorem generateOn_implementation (policy : FallbackPolicy) (seed : Seed) (seedText : String)
    (world : World σ) :
    generateOn implementation policy seed seedText world =
      ⟨.ok (.seeded seedText (verificationKey seed)), world, production seed⟩ := by
  have derived := derive_implementation policy seed world
  rw [generateOn_of_extracted (congrArg Ending.value derived) (extractPublicKey_keyPairOf seed), derived]
  rfl

/-- A request on such a loader gives the keys of its seed and leaves such a loader behind. -/
theorem generate_of_isBuiltin (generator : Generator) {loaders : Loaders σ}
    (builtin : IsBuiltin draw (loaders generator.loader)) {text? : Option String} {entropy : Entropy}
    {seed : Seed} {seedText : String} (readable : requestedSeed text? entropy = .ok (seed, seedText))
    (world : World σ) :
    let ending := generator.generate text? entropy loaders world
    ending.value.1 = .ok (.seeded seedText (verificationKey seed)) ∧
      IsBuiltin draw (ending.value.2 generator.loader) := by
  intro ending
  rcases load_of_isBuiltin builtin world with ⟨stamp, loaded⟩
  have applied : ending = _ := generator.generate_apply text? entropy loaders world
  rw [generate_of_loaded readable loaded] at applied
  rw [applied]
  constructor
  · exact congrArg Ending.value (generateOn_implementation generator.policy seed seedText
      ((loaders generator.loader).load world).world)
  · have kept := builtin.load world
    rwa [← loaders.set_apply_self generator.loader ((loaders generator.loader).load world).value.2] at kept

end Builtin
end NodeKeys
