import NodeKeys.Generator

/-!
# Requests built step by step

A builder collects what a generation needs.  Each setter replaces one of its parts, so the last one of a
kind counts and setters of different kinds may come in any order.
-/

namespace NodeKeys

variable {σ : Type}

/-- A request for ML-DSA-65 keys. -/
structure Builder where
  seed : Option String := none
  policy : FallbackPolicy := .allow
  loader : LoaderId := .processWide
  deriving DecidableEq, Repr

namespace Builder

/-- Derive from this seed instead of a random one. -/
def withSeed (builder : Builder) (seed : String) : Builder :=
  { builder with seed := some seed }

def withPolicy (builder : Builder) (policy : FallbackPolicy) : Builder :=
  { builder with policy }

def withSettings (builder : Builder) (settings : Settings) : Builder :=
  builder.withPolicy (.ofSettings settings)

def ofConfig (config : Config) : Builder :=
  ({} : Builder).withSettings config.mldsa65

def withLoader (builder : Builder) (loader : LoaderId) : Builder :=
  { builder with loader }

def generate (builder : Builder) (entropy : Entropy) (loaders : Loaders σ) :
    Run σ (Except KeygenError SigningKeys × Loaders σ) :=
  Generator.generate ⟨builder.loader, builder.policy⟩ builder.seed entropy loaders

def generateThen {τ : Type} (builder : Builder) (handler : Except KeygenError SigningKeys → τ)
    (entropy : Entropy) (loaders : Loaders σ) : Run σ (τ × Loaders σ) := do
  let (result, after) ← builder.generate entropy loaders
  return (handler result, after)

theorem generateThen_apply {τ : Type} (builder : Builder) (handler : Except KeygenError SigningKeys → τ)
    (entropy : Entropy) (loaders : Loaders σ) (world : World σ) :
    builder.generateThen handler entropy loaders world =
      let asked := builder.generate entropy loaders world
      ⟨(handler asked.value.1, asked.value.2), asked.world, asked.events⟩ := by
  simp only [generateThen, Run.bind_apply, Run.pure_apply, List.append_nil]

/-- The builder as a record, with its loader as it is now. -/
def diagnostic (builder : Builder) (loaders : Loaders σ) : String :=
  Diagnostic.record "Mldsa65Builder"
    [("seed", Diagnostic.option (builder.seed.map Diagnostic.quoted)),
     ("policy", builder.policy.diagnostic),
     ("loader", (loaders builder.loader).diagnostic)]

end Builder
end NodeKeys
