import NodeKeys.Proofs.Base64Url.Grammar
import NodeKeys.Proofs.Generation.Stages

/-!
# The spelling of a seed

One seed has many spellings: with `=` at the end or without, in either alphabet, and with anything in the bits
of the last symbol that belong to no byte.  The text of a seed is read once, and from then on a request knows
only the bytes.  It comes back in the keys, as it was given, and goes nowhere else.

So the request with one text is the request with the other, followed by writing that text into the keys.
This is an equation of runs: nothing is assumed about the world in which they start or about the factories.
-/

namespace NodeKeys

open Loader

variable {σ : Type}

/-! ## What is read from a text -/

/-- What a text is as a seed follows from the bytes that it holds. -/
theorem Seed.ofText_congr {text other : String}
    (same : Base64Url.decode text = Base64Url.decode other) : Seed.ofText text = Seed.ofText other := by
  unfold ofText Base64Url.decodeExact
  rw [same]

theorem requestedSeed_congr {text other : String}
    (same : Base64Url.decode text = Base64Url.decode other) {entropy random : Entropy}
    (probed : entropy.probe = random.probe) :
    requestedSeed (some other) random =
      (requestedSeed (some text) entropy).map fun requested => (requested.1, other) := by
  cases available : random.probe with
  | error reason =>
    rw [requestedSeed_of_unavailable available, requestedSeed_of_unavailable (probed.trans available)]
    rfl
  | ok =>
    rw [requestedSeed_given available, requestedSeed_given (probed.trans available), Seed.ofText_congr same]
    cases Seed.ofText other <;> rfl

/-! ## Where the text goes -/

/-- The keys with another spelling of their seed. -/
def SigningKeys.respelled (keys : SigningKeys) (text : String) : SigningKeys :=
  { keys with seed := text }

/-- Derivation and extraction pass the text on and do nothing else with it. -/
theorem generateOn_respelled (handle : Module σ) (policy : FallbackPolicy) (seed : Seed)
    (text other : String) :
    generateOn handle policy seed other =
      Except.map (SigningKeys.respelled · other) <$> generateOn handle policy seed text := by
  simp only [generateOn, map_bind]
  refine congrArg (CandidateChain.derive _ seed >>= ·) (funext fun derived => ?_)
  cases derived with
  | error error => exact (map_pure _ _).symm
  | ok derivation =>
    simp only [publish]
    cases derivation.raw.extractPublicKey with
    | error error => exact (map_pure _ _).symm
    | ok publicKey =>
      simp only [map_bind, map_pure]
      rfl

theorem Loader.generate_respelled (loader : Loader σ) (policy : FallbackPolicy) {text other : String}
    (same : Base64Url.decode text = Base64Url.decode other) {entropy random : Entropy}
    (probed : entropy.probe = random.probe) :
    loader.generate policy (some other) random =
      (fun ending => (ending.1.map (SigningKeys.respelled · other), ending.2)) <$>
        loader.generate policy (some text) entropy := by
  unfold Loader.generate
  rw [requestedSeed_congr same probed]
  cases requestedSeed (some text) entropy with
  | error error => exact (map_pure _ _).symm
  | ok requested =>
    rcases requested with ⟨seed, seedText⟩
    have read : Except.map (fun requested => (requested.1, other)) (.ok (seed, seedText)) =
        (.ok (seed, other) : Except KeygenError (Seed × String)) := rfl
    rw [read]
    simp only [map_bind]
    refine congrArg (loader.load >>= ·) (funext fun loading => ?_)
    rcases loading with ⟨outcome, loaded⟩
    cases outcome with
    | error error => exact (map_pure _ _).symm
    | ok handle =>
      simp only [generateOn_respelled handle.module policy seed seedText other, map_bind, map_pure,
        bind_map_left]

namespace Generator

/-- Take two texts that are read alike, for instance two spellings of the same thirty-two bytes, and any
loaders, any world and any policy.  Requests with the one and with the other, made with randomness or both without,
start the same imports, call the same factories with the same arguments, log the same lines, and leave the same
loaders and the same world.  They end with the same error, or with the same verification key made in the same way,
each under the text that it was given. -/
theorem spelling_is_irrelevant (generator : Generator) {text other : String}
    (same : Base64Url.decode text = Base64Url.decode other) {entropy random : Entropy}
    (probed : entropy.probe = random.probe) (loaders : Loaders σ) (world : World σ) :
    let first := generator.generate (some text) entropy loaders world
    let second := generator.generate (some other) random loaders world
    first.events = second.events ∧
    first.world = second.world ∧
    first.value.2 = second.value.2 ∧
    ((∃ error, first.value.1 = .error error ∧ second.value.1 = .error error) ∨
      ∃ verify deterministic, first.value.1 = .ok ⟨text, verify, deterministic⟩ ∧
        second.value.1 = .ok ⟨other, verify, deterministic⟩) := by
  intro first second
  -- Respelling the first request gives the second, and also the first, which says whose text it returns.
  have respelled {spelling : String} (alike : Base64Url.decode text = Base64Url.decode spelling)
      {asked : Entropy} (probed : entropy.probe = asked.probe) :
      generator.generate (some spelling) asked loaders world =
        ⟨(first.value.1.map (SigningKeys.respelled · spelling), first.value.2), first.world,
          first.events⟩ := by
    have applied : first = _ := generator.generate_apply (some text) entropy loaders world
    rw [generator.generate_apply, Loader.generate_respelled _ _ alike probed, Run.map_apply,
      applied]
  have echoed : first = _ := respelled rfl rfl
  have changed : second = _ := respelled same probed
  clear_value first second
  rw [changed]
  refine ⟨rfl, rfl, rfl, ?_⟩
  have ownText : first.value.1 = first.value.1.map (SigningKeys.respelled · text) :=
    congrArg (·.value.1) echoed
  generalize first.value.1 = result at ownText ⊢
  cases result with
  | error error => exact Or.inl ⟨error, rfl, rfl⟩
  | ok keys => exact Or.inr ⟨keys.verify, keys.deterministic, ownText, rfl⟩

/-- An implementation whose public halves tell apart seeds and also calls. -/
def numbered : Module Nat :=
  (Module.empty "numbered").withFactory "keygen"
    (.seeded fun seed calls => (.ok (.bytes (UInt8.ofNat calls :: seed.bytes)), calls + 1))

/-- The second text is in the other alphabet, has an `=`, and sets bits that belong to no byte. -/
theorem spelling_is_irrelevant_numbered :
    let text := "-_AAAAAAAAAAAAAAAAAAAAAAAAAAAAAAAAAAAAAAAAA"
    let other := "+/AAAAAAAAAAAAAAAAAAAAAAAAAAAAAAAAAAAAAAAAD="
    let loaders : Loaders Nat := fun _ =>
      { source := { start := fun _ calls => (⟨0, fun calls => (.ok (some numbered), calls)⟩, calls) },
        steps := [⟨"numbered", .asIs⟩] }
    let random : Entropy := .giving ⟨List.replicate 32 7, rfl⟩
    let generator : Generator := {}
    Base64Url.decode text = Base64Url.decode other ∧
    let first := generator.generate (some text) random loaders ⟨0, 0⟩
    let second := generator.generate (some other) random loaders ⟨0, 0⟩
    first.events = second.events ∧
    first.world = second.world ∧
    first.value.2 = second.value.2 ∧
    ((∃ error, first.value.1 = .error error ∧ second.value.1 = .error error) ∨
      ∃ verify deterministic, first.value.1 = .ok ⟨text, verify, deterministic⟩ ∧
        second.value.1 = .ok ⟨other, verify, deterministic⟩) := by
  intro text other loaders random generator
  have plain : Base64Url.Spells text ([62, 63] ++ List.replicate 41 0) 0 :=
    ⟨⟨text.toList, by decide, by decide⟩, by decide, by decide, by decide, by decide⟩
  have padded : Base64Url.Spells other ([62, 63] ++ List.replicate 40 0 ++ [3]) 1 :=
    ⟨⟨other.toList.take 43, by decide, by decide⟩, by decide, by decide, by decide, by decide⟩
  have same : Base64Url.decode text = Base64Url.decode other :=
    (Base64Url.decode_of_spells plain).trans (Base64Url.decode_of_spells padded).symm
  exact ⟨same, spelling_is_irrelevant generator same rfl loaders ⟨0, 0⟩⟩

end Generator
end NodeKeys
