import NodeKeys.EntropyPool
import NodeKeys.RawKeyPair.Basic

/-!
# The state of scripted packages

Scripted packages stand in for real ones.  What an import answers and what a factory returns is written
down in advance, one entry for each time, and the last entry holds from then on.

The state records what was asked for, in order.  The turns of imports are counted in this record, so the
imports of a package start again from its first answer whenever a new record is begun.  The turns of a
factory are counted for good.
-/

namespace NodeKeys
namespace Scripted

/-- Turns taken so far, and a record of what was asked for. -/
structure State where
  /-- How often the body of each factory ran, by the number of the factory. -/
  factoryTurns : List (Nat × Nat) := []
  /-- The packages whose imports were started, in order. -/
  requested : List String := []
  /-- The factories whose bodies ran, in order, and whether they had a seed. -/
  executed : List (String × Bool) := []
  /-- Randomness for packages that are not scripted. -/
  entropy : EntropyPool := { root := [] }

namespace State

/-- How often an import of the package is on record. -/
def importTurn (state : State) (specifier : String) : Nat :=
  state.requested.count specifier

/-- How often the body of a factory ran. -/
def factoryTurn (state : State) (number : Nat) : Nat :=
  (state.factoryTurns.lookup number).getD 0

def noteImport (state : State) (specifier : String) : State :=
  { state with requested := state.requested ++ [specifier] }

/-- Record that the body of a factory runs. -/
def noteExecution (state : State) (number : Nat) (label : String) (hasSeed : Bool) : State :=
  { state with
    factoryTurns := (number, state.factoryTurn number + 1)
      :: state.factoryTurns.filter fun entry => entry.1 != number
    executed := state.executed ++ [(label, hasSeed)] }

def newRecord (state : State) : State :=
  { state with requested := [], executed := [] }

def draw (state : State) : Seed × State :=
  let (seed, entropy) := state.entropy.draw
  (seed, { state with entropy })

end State

/-- The entry of a script for a turn: the last one is repeated. -/
def turnOf {α : Type} (script : List α) (turn : Nat) : Option α :=
  script[min turn (script.length - 1)]?

end Scripted
end NodeKeys
