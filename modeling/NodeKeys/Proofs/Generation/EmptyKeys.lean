import NodeKeys.Proofs.Base64Url.Characters
import NodeKeys.Proofs.Generation.Stages
import NodeKeys.Proofs.RawKeyPair.Search

/-!
# Empty verification keys

A factory that returns nothing, or an empty byte string, record or sequence, is passed over.  This looks at the
outermost shape only.  The public half is looked for afterwards and deeper inside, and whatever bytes are found
there are the verification key, even if there are none.
-/

namespace NodeKeys

variable {σ : Type}

namespace Generator

variable {generator : Generator} {text? : Option String} {entropy : Entropy} {loaders : Loaders σ}
  {world : World σ} {seedText : String} {derivation : Derivation}

theorem Derives.isEmpty_raw (derives : generator.Derives text? entropy loaders world seedText derivation) :
    derivation.raw.isEmpty = false := by
  rcases derives with ⟨seed, handle, _, _, derived⟩
  exact (CandidateChain.deriveFrom_ok derived).1

/-- A key pair that is used and yields nothing but the empty byte string has it inside. -/
theorem Derives.asBytes?_raw (derives : generator.Derives text? entropy loaders world seedText derivation)
    (yields : derivation.raw.Yields []) : derivation.raw.asBytes? = none := by
  have content := derives.isEmpty_raw
  generalize derivation.raw = raw at content yields
  cases yields with
  | bare => cases content
  | named => rfl
  | listed => rfl
  | wrapped => rfl

theorem value_generate_of_yields (derives : generator.Derives text? entropy loaders world seedText derivation)
    {content : List UInt8} (yields : derivation.raw.Yields content) :
    (generator.generate text? entropy loaders world).value.1 =
      .ok ⟨seedText, Base64Url.encode content, derivation.deterministic⟩ := by
  rw [value_generate_of_derives derives, (derivation.raw.extractPublicKey_eq_ok_iff content).mpr yields]
  rfl

theorem yields_of_generate {keys : SigningKeys}
    (given : (generator.generate text? entropy loaders world).value.1 = .ok keys) :
    ∃ seedText derivation content, generator.Derives text? entropy loaders world seedText derivation ∧
      derivation.raw.Yields content ∧ keys.verify = Base64Url.encode content := by
  rcases (generator.value_generate_eq_ok_iff text? entropy loaders world keys).mp given with
    ⟨seedText, derivation, content, derives, extracted, rfl⟩
  exact ⟨seedText, derivation, content, derives, (derivation.raw.extractPublicKey_eq_ok_iff content).mp extracted,
    rfl⟩

/-- The verification key of a request is the text of what the key pair yields.  So it is empty if and only if the
key pair of the first factory that is not passed over is a record or a sequence, which yields the empty byte
string from inside.  A key pair that is used is never empty itself, and if it yields nothing the request fails. -/
theorem verification_key_is_empty_iff (generator : Generator) (text? : Option String) (entropy : Entropy)
    (loaders : Loaders σ) (world : World σ) :
    let answer := (generator.generate text? entropy loaders world).value.1
    let derives := generator.Derives text? entropy loaders world
    (∀ keys, answer = .ok keys → ∃ seedText derivation content, derives seedText derivation ∧
      derivation.raw.Yields content ∧ keys.verify = Base64Url.encode content) ∧
    ((∃ keys, answer = .ok keys ∧ keys.verify = "") ↔
      ∃ seedText derivation, derives seedText derivation ∧ derivation.raw.asBytes? = none ∧
        derivation.raw.Yields []) ∧
    ∀ seedText derivation, derives seedText derivation → derivation.raw.isEmpty = false ∧
      ((∀ content, ¬ derivation.raw.Yields content) →
        answer = .error (.publicKeyExtraction s!"unrecognized {derivation.raw.kind} result")) := by
  intro answer derives
  refine ⟨fun keys given => yields_of_generate given, ⟨?hidden, ?shown⟩, ?used⟩
  case hidden =>
    rintro ⟨keys, given, empty⟩
    rcases yields_of_generate given with ⟨seedText, derivation, content, derived, yields, written⟩
    have nothing : content = [] := (Base64Url.encode_eq_empty_iff content).mp (written.symm.trans empty)
    subst nothing
    exact ⟨seedText, derivation, derived, derived.asBytes?_raw yields, yields⟩
  case shown =>
    rintro ⟨seedText, derivation, derived, _, yields⟩
    exact ⟨_, value_generate_of_yields derived yields, (Base64Url.encode_eq_empty_iff []).mpr rfl⟩
  case used =>
    intro seedText derivation derived
    refine ⟨derived.isEmpty_raw, fun nowhere => ?_⟩
    have failed := value_generate_of_derives derived
    rw [RawKeyPair.extractPublicKey_of_not_yields nowhere] at failed
    exact failed

/-- A module whose only factory returns this key pair. -/
def returning (raw : RawKeyPair) : Module Nat :=
  (Module.empty "returning").withFactory "keygen" (.seeded fun _ calls => (.ok raw, calls + 1))

/-- An empty byte string is refused as a key pair, and accepted as the public half of one. -/
theorem empty_verification_key_is_returned :
    let random : Seed := ⟨List.replicate 32 7, rfl⟩
    let loaders (raw : RawKeyPair) : Loaders Nat := fun _ =>
      { source := { start := fun _ calls => (⟨0, fun calls => (.ok (some (returning raw)), calls)⟩, calls) },
        steps := [⟨"returning", .asIs⟩] }
    let answer (raw : RawKeyPair) := (Generator.generate {} none (.giving random) (loaders raw) ⟨0, 0⟩).value.1
    answer (.bytes []) = .error (.keyGenerationFailed "compatible function not found") ∧
    answer (.ofFields [("publicKey", .bytes [])]) = .ok ⟨random.text, "", true⟩ := by
  intro random loaders answer
  have derives : Generator.Derives {} none (.giving random)
      (loaders (.ofFields [("publicKey", .bytes [])])) ⟨0, 0⟩ random.text
      ⟨.ofFields [("publicKey", .bytes [])], "keygen", true⟩ := ⟨random, _, rfl, rfl, rfl⟩
  have yields : (RawKeyPair.ofFields [("publicKey", .bytes [])]).Yields [] :=
    RawKeyPair.yields_of_publicKey? rfl
  have returned := value_generate_of_yields derives yields
  rw [(Base64Url.encode_eq_empty_iff []).mpr rfl] at returned
  exact ⟨rfl, returned⟩

end Generator
end NodeKeys
