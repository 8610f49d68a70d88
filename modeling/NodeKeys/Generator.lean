import NodeKeys.Derivation
import NodeKeys.Entropy
import NodeKeys.Loader.Pool
import NodeKeys.RawKeyPair.PublicKey

/-!
# ML-DSA-65 key generation

A request makes sure that there is randomness to be had, although it uses it only if the caller gave no seed.  Then
it goes through four stages: the seed is read or drawn, the implementation is loaded, a key pair is derived, and its
public half is extracted.  The first stage that fails ends the request with its error.  Later stages are not
entered, so a seed that is not readable never starts an import.
-/

namespace NodeKeys

variable {σ : Type}

/-- A seed and the verification key, both as key text. -/
structure SigningKeys where
  /-- The seed, in the caller's own spelling if the caller gave it. -/
  seed : String
  verify : String
  /-- Whether the verification key was derived from the seed. -/
  deterministic : Bool
  deriving DecidableEq, Repr

def SigningKeys.diagnostic (keys : SigningKeys) : String :=
  Diagnostic.record "Mldsa65Keys"
    [("seed", Diagnostic.quoted keys.seed), ("verify", Diagnostic.quoted keys.verify),
     ("deterministic", Diagnostic.bool keys.deterministic)]

/-- The seed of a request and its text. -/
def requestedSeed (text? : Option String) (entropy : Entropy) : Except KeygenError (Seed × String) :=
  match entropy.ensure, text? with
  | .error error, _ => .error error
  | .ok (), some text => (Seed.ofText text).map fun seed => (seed, text)
  | .ok (), none => entropy.draw.map fun seed => (seed, seed.text)

/-- The last stage: extract the public half of a key pair, and log that there are keys. -/
def publish (seedText : String) (derivation : Derivation) : Run σ (Except KeygenError SigningKeys) :=
  match derivation.raw.extractPublicKey with
  | .error error => return .error error
  | .ok publicKey => do
    Run.log (.generated "ML-DSA-65" publicKey derivation.deterministic)
    Run.log (.producedBy derivation.factory)
    return .ok ⟨seedText, Base64Url.encode publicKey, derivation.deterministic⟩

/-- The last two stages, on a loaded implementation. -/
def generateOn (handle : Module σ) (policy : FallbackPolicy) (seed : Seed) (seedText : String) :
    Run σ (Except KeygenError SigningKeys) := do
  match ← (CandidateChain.forHandle handle policy).derive seed with
  | .error error => return .error error
  | .ok derivation => publish seedText derivation

/-- Generate keys with a loader, which is given back as the request leaves it. -/
def Loader.generate (loader : Loader σ) (policy : FallbackPolicy) (text? : Option String)
    (entropy : Entropy) : Run σ (Except KeygenError SigningKeys × Loader σ) :=
  match requestedSeed text? entropy with
  | .error error => return (.error error, loader)
  | .ok (seed, seedText) => do
    let (outcome, loaded) ← loader.load
    match outcome with
    | .error error => return (.error error, loaded)
    | .ok handle => do
      let result ← generateOn handle.module policy seed seedText
      return (result, loaded)

/-- Load an implementation and derive a key pair, without extracting its public half. -/
def Loader.derive (loader : Loader σ) (policy : FallbackPolicy) (seed : Seed) :
    Run σ (Except KeygenError Derivation × Loader σ) := do
  let (outcome, loaded) ← loader.load
  match outcome with
  | .error error => return (.error error, loaded)
  | .ok handle => do
    let result ← (CandidateChain.forHandle handle.module policy).derive seed
    return (result, loaded)

/-- A loader and a policy. -/
structure Generator where
  loader : LoaderId := .processWide
  policy : FallbackPolicy := .allow
  deriving DecidableEq, Repr

/-- A generator with this loader that allows the fallback. -/
def Generator.over (loader : LoaderId) : Generator :=
  { loader }

def Generator.withPolicy (generator : Generator) (policy : FallbackPolicy) : Generator :=
  { generator with policy }

def Generator.generate (generator : Generator) (text? : Option String) (entropy : Entropy)
    (loaders : Loaders σ) : Run σ (Except KeygenError SigningKeys × Loaders σ) := do
  let (result, loader) ← (loaders generator.loader).generate generator.policy text? entropy
  return (result, loaders.set generator.loader loader)

end NodeKeys
