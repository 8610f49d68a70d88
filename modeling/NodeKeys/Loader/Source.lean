import NodeKeys.Module
import NodeKeys.Run

/-!
# Where packages come from

A source starts an import at once; the answer comes when the import is ready.  Both may depend on the state of the
source and change it, so importing a package twice may lead to two different answers.
-/

namespace NodeKeys
namespace Loader

/-- What an import answers.  It may succeed and still bring no module. -/
abbrev Answer (σ : Type) := Except ImportError (Option (Module σ))

/-- A supplier of packages. -/
structure Source (σ : Type) where
  start : (specifier : String) → σ → Pending σ (Answer σ) × σ

/-- Start an import, in sight of an observer. -/
def Source.startImport {σ : Type} (source : Source σ) (specifier : String) :
    Run σ (Pending σ (Answer σ)) := do
  Run.emit (.imported specifier)
  Run.act (source.start specifier)

end Loader
end NodeKeys
