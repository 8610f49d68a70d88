import NodeKeys.Loader.Source
import NodeKeys.Search

/-!
# One attempt to resolve an implementation

The attempt is a search over the steps: the package of each step is imported, in order.  A step is passed over if
its import fails or brings no module, or if its access leads to nothing or to a module without exports.  The first
step that is not passed over decides; the ML-DSA-65 variant of its module is preferred to the module itself.
-/

namespace NodeKeys
namespace Loader

variable {σ : Type}

/-- A resolved implementation.  The stamp tells apart handles that were made at different times. -/
structure Handle (σ : Type) where
  stamp : Nat
  module : Module σ

/-- How an attempt ends. -/
abbrev Outcome (σ : Type) := Except KeygenError (Handle σ)

/-- The module that an access selects.  A module without exports is never selected. -/
def Access.select (access : Access) (module : Module σ) : Option (Module σ) :=
  let selected :=
    match access with
    | .asIs => some module
    | .default => module.submodule? defaultExport
    | .named name => module.submodule? name
    | .nested path => module.descend? path
  selected.filter fun found => !found.isEmpty

/-- An access selects the module at the end of its path. -/
theorem Access.select_eq (access : Access) (module : Module σ) :
    access.select module = (module.descend? access.path).filter fun found => !found.isEmpty := by
  cases access with
  | asIs => rfl
  | nested names => rfl
  | default => exact congrArg (Option.filter _) (module.submodule?_eq_descend? _)
  | named name => exact congrArg (Option.filter _) (module.submodule?_eq_descend? _)

/-- The ML-DSA-65 variant of a module, if it has one with exports, or else the module itself. -/
def preferredVariant (module : Module σ) : Module σ :=
  match module.submodule? variantExport with
  | some variant => if variant.isEmpty then module else variant
  | none => module

/-- Decide whether an answer settles the attempt, and log why if it does not. -/
def consider (step : Step) (answer : Answer σ) : Run σ (Option (Handle σ)) :=
  match answer with
  | .error error => do
    Run.log (.stepFailed step error)
    return none
  | .ok none => do
    Run.log (.stepEmpty step)
    return none
  | .ok (some module) =>
    match step.access.select module with
    | none => do
      Run.log (.stepUnusable step)
      return none
    | some selected => do
      let implementation := preferredVariant selected
      Run.log (.resolved step implementation.name)
      let stamp ← Run.newHandle
      return some ⟨stamp, implementation⟩

/-- The error of an attempt that passed over all of its steps. -/
def exhausted (steps : Nat) : KeygenError :=
  .implementationNotFound s!"tried {steps} loader variant(s)"

/-- The search for a usable import.  `total` counts all the steps there were. -/
def Source.search (source : Source σ) (total : Nat) : Search σ Step (Answer σ) (Handle σ) where
  start step := source.startImport step.specifier
  consider := consider
  exhausted := exhausted total

/-- An attempt that waits for an import. -/
abbrev Attempt (σ : Type) := Search.Attempt σ Step (Answer σ)

/-- Where a poll leaves an attempt. -/
abbrev Progress (σ : Type) := Search.Progress σ Step (Answer σ) (Handle σ)

end Loader
end NodeKeys
