import NodeKeys.Loader.Basic
import NodeKeys.MlDsa.KeyGeneration

/-!
# The packages that come with the program

Two packages hold an ML-DSA-65 implementation.  The first derives key pairs from a seed and offers this
under two names, with results of two shapes.  The second draws its own randomness and returns the two keys
in a sequence; it is the last resort of the default steps.

How randomness is drawn from the world is a parameter, so the packages work in any world that has some.
-/

namespace NodeKeys
namespace Builtin

open Loader

variable {σ : Type}

/-- The package that derives key pairs from seeds. -/
def seededPackage : String := "libcrux-ml-dsa"

/-- The package that draws key pairs at random. -/
def randomPackage : String := "pqcrypto-mldsa"

def available : List String := [seededPackage, randomPackage]

/-- The key pair of a seed under the names `publicKey` and `secretKey`. -/
def keygen : Factory σ :=
  Factory.seeded fun seed state =>
    let pair := MlDsa.generate seed.bytes
    (.ok (.ofFields [("publicKey", .bytes pair.verificationKey), ("secretKey", .bytes pair.signingKey)]),
     state)

/-- The key pair of a seed under the names `verification_key` and `signing_key`, with its length checked. -/
def generateKeyPair : Factory σ :=
  Factory.seeded fun seed state =>
    let pair := MlDsa.generate seed.bytes
    if pair.verificationKey.length ≠ MlDsa.verificationKeyLength then
      (.error ⟨s!"unexpected verification key length {pair.verificationKey.length}"⟩, state)
    else
      (.ok (.ofFields
        [("verification_key", .bytes pair.verificationKey), ("signing_key", .bytes pair.signingKey)]),
       state)

def keyPair (draw : σ → Seed × σ) : Factory σ :=
  Factory.unseeded fun state =>
    let (seed, next) := draw state
    let pair := MlDsa.generate seed.bytes
    (.ok (.list [.bytes pair.verificationKey, .bytes pair.signingKey]), next)

def seededModule : Module σ :=
  (Module.empty seededPackage).withModule "ml_dsa65"
    (((Module.empty "libcrux-ml-dsa/ml_dsa65").withFactory "keygen" keygen).withFactory
      "generate_key_pair" generateKeyPair)

def randomModule (draw : σ → Seed × σ) : Module σ :=
  (Module.empty randomPackage).withModule "mldsa65"
    ((Module.empty "pqcrypto-mldsa/mldsa65").withFactory "keypair" (keyPair draw))

def resolve (draw : σ → Seed × σ) (specifier : String) : Answer σ :=
  if specifier = seededPackage then .ok (some seededModule)
  else if specifier = randomPackage then .ok (some (randomModule draw))
  else .error ⟨specifier, "module not compiled into this build"⟩

/-- The packages as a source that answers at once. -/
def source (draw : σ → Seed × σ) : Source σ where
  start := fun specifier state => (⟨0, fun later => (resolve draw specifier, later)⟩, state)

/-- The ways to the implementation inside these packages, most preferred first. -/
def defaultSteps : List Step :=
  [⟨seededPackage, .named variantExport⟩, ⟨seededPackage, .default⟩, ⟨seededPackage, .asIs⟩,
   ⟨randomPackage, .nested ["mldsa65"]⟩, ⟨randomPackage, .asIs⟩]

def loader (draw : σ → Seed × σ) : Loader σ where
  source := source draw
  steps := defaultSteps

end Builtin
end NodeKeys
