import NodeKeys.Module
import NodeKeys.Search

/-!
# From a seed to a key pair

The factories of an implementation are found under a fixed list of names and called in the order of that
list, until one of them returns a key pair that is not empty.  A factory that declares an argument is
given the seed.  A factory without arguments makes a key pair that the seed cannot reproduce; the policy
says whether it is called at all.

The order is by name, not by arity: a name that usually takes the seed comes before the others whatever
the factory under it declares.
-/

namespace NodeKeys

variable {σ : Type}

/-- Names of factories in the order in which they are tried. -/
def factoryPriority : List String :=
  ["keygen_from_seed", "keypair_from_seed", "from_seed", "derive_keypair", "keygen",
   "generate_key_pair", "generate_keypair", "keypair", "generate"]

/-- A factory under the name of its export. -/
structure Candidate (σ : Type) where
  name : String
  factory : Factory σ

/-- A key pair, and how it was made. -/
structure Derivation where
  /-- The key pair in the shape that the factory chose. -/
  raw : RawKeyPair
  /-- The export that made it. -/
  factory : String
  /-- Whether the factory was given the seed. -/
  deterministic : Bool

/-- The derivation as a record; of the key pair, only the shape is shown. -/
def Derivation.diagnostic (derivation : Derivation) : String :=
  Diagnostic.record "Derivation"
    [("raw", derivation.raw.diagnostic), ("factory", Diagnostic.quoted derivation.factory),
     ("deterministic", Diagnostic.bool derivation.deterministic)]

/-- The factories that a module exports under some of these names, in the order of the names. -/
def candidatesNamed (names : List String) (handle : Module σ) : List (Candidate σ) :=
  names.filterMap fun name => (handle.factory? name).map (Candidate.mk name)

/-- The factories of a module in the order in which they are tried. -/
def resolveCandidates (handle : Module σ) : List (Candidate σ) :=
  candidatesNamed factoryPriority handle

/-- Whether a policy passes over a candidate without calling it. -/
def FallbackPolicy.skips (policy : FallbackPolicy) (candidate : Candidate σ) : Bool :=
  !candidate.factory.takesSeed && policy == .deny

namespace Candidate

def argument (candidate : Candidate σ) (seed : Seed) : Option Seed :=
  if candidate.factory.takesSeed then some seed else none

/-- Call the factory, in sight of an observer.  A candidate that the policy skips is not called and gives no
answer. -/
def start (policy : FallbackPolicy) (seed : Seed) (candidate : Candidate σ) :
    Run σ (Pending σ (Option (Except FactoryError RawKeyPair))) :=
  if policy.skips candidate then return .ready none
  else do
    Run.emit (.called candidate.name (candidate.argument seed))
    let pending ← Run.act (candidate.factory.start (candidate.argument seed))
    return pending.map some

/-- Decide whether an answer is a key pair that is not empty. -/
def consider (candidate : Candidate σ) : Option (Except FactoryError RawKeyPair) → Run σ (Option Derivation)
  | none => do
    Run.log (.factorySkipped candidate.name)
    return none
  | some (.error error) => do
    Run.log (.factoryFailed candidate.name error)
    return none
  | some (.ok raw) =>
    if raw.isEmpty then do
      Run.log (.factoryReturnedEmpty candidate.name)
      return none
    else do
      let deterministic := candidate.factory.takesSeed
      if !deterministic then Run.log (.factoryIgnoresSeed candidate.name)
      return some ⟨raw, candidate.name, deterministic⟩

end Candidate

/-- Candidates in the order in which they are tried, and the policy about those without a seed. -/
structure CandidateChain (σ : Type) where
  candidates : List (Candidate σ)
  policy : FallbackPolicy

namespace CandidateChain

def forHandle (handle : Module σ) (policy : FallbackPolicy) : CandidateChain σ :=
  ⟨resolveCandidates handle, policy⟩

def names (chain : CandidateChain σ) : List String :=
  chain.candidates.map Candidate.name

/-- The search for a key pair that is not empty. -/
def search (policy : FallbackPolicy) (seed : Seed) :
    Search σ (Candidate σ) (Option (Except FactoryError RawKeyPair)) Derivation where
  start := Candidate.start policy seed
  consider := Candidate.consider
  exhausted := .keyGenerationFailed "compatible function not found"

/-- A search of candidates that waits for a factory. -/
abbrev Attempt (σ : Type) :=
  Search.Attempt σ (Candidate σ) (Option (Except FactoryError RawKeyPair))

/-- Where a poll leaves a search of candidates. -/
abbrev Progress (σ : Type) :=
  Search.Progress σ (Candidate σ) (Option (Except FactoryError RawKeyPair)) Derivation

/-- Try candidates until one returns a key pair that is not empty. -/
def deriveFrom (policy : FallbackPolicy) (seed : Seed) (candidates : List (Candidate σ)) :
    Run σ (Except KeygenError Derivation) :=
  (search policy seed).complete candidates

def derive (chain : CandidateChain σ) (seed : Seed) : Run σ (Except KeygenError Derivation) :=
  deriveFrom chain.policy seed chain.candidates

end CandidateChain
end NodeKeys
