import NodeKeys.Loader.Source
import NodeKeys.Scripted.Factory

/-!
# Scripted packages

Each package lists what its imports answer, the first time, the second time and so on.  An import is
counted when it starts, so an import that is given up has used up its answer.  All imports make their
caller wait the same number of times.
-/

namespace NodeKeys
namespace Scripted

open Loader

/-- Packages with the answers of their imports. -/
structure Packages where
  /-- How often an import is not ready. -/
  waits : Nat := 0
  answers : List (String × List (Except String (Option (Module State))))

def Packages.answer (packages : Packages) (specifier : String) (turn : Nat) : Answer State :=
  match (Table.find? specifier packages.answers).bind fun answers => turnOf answers turn with
  | some (.ok module?) => .ok module?
  | some (.error reason) => .error ⟨specifier, reason⟩
  | none => .error ⟨specifier, "no such package"⟩

def Packages.source (packages : Packages) : Source State where
  start := fun specifier state =>
    let answer := packages.answer specifier (state.importTurn specifier)
    (⟨packages.waits, fun later => (answer, later)⟩, state.noteImport specifier)

end Scripted
end NodeKeys
