import NodeKeys.Loader.Attempt

/-!
# Loaders

A loader has a source, a list of steps and a cell.  The first attempt that runs to its end fills the cell,
with a handle or with an error, and nothing empties or overwrites it.  A failure is kept like a success.
-/

namespace NodeKeys

open Loader

/-- Resolves an implementation once. -/
structure Loader (σ : Type) where
  source : Source σ
  steps : List Step
  /-- The outcome of the attempt that was completed, if there was one. -/
  cell : Option (Outcome σ) := none

namespace Loader

variable {σ : Type}

def isSettled (loader : Loader σ) : Bool :=
  loader.cell.isSome

def search (loader : Loader σ) : Search σ Step (Answer σ) (Handle σ) :=
  loader.source.search loader.steps.length

/-- A complete attempt, whatever the cell holds. -/
def attempt (loader : Loader σ) : Run σ (Outcome σ) :=
  loader.search.complete loader.steps

/-- The kept outcome, or that of a complete attempt, which is then kept. -/
def load (loader : Loader σ) : Run σ (Outcome σ × Loader σ) :=
  match loader.cell with
  | some outcome => return (outcome, loader)
  | none => do
    let outcome ← loader.attempt
    return (outcome, { loader with cell := some outcome })

def diagnostic (loader : Loader σ) : String :=
  Diagnostic.openRecord "AdapterLoader"
    [("steps", Diagnostic.sequence (loader.steps.map Step.diagnostic)),
     ("settled", Diagnostic.bool loader.isSettled)]

end Loader
end NodeKeys
