import NodeKeys.Hash.Keccak
import NodeKeys.Seed

/-!
# Drawing random seeds

A pool is opened with random bytes from outside and gives out as many seeds as are wanted, each of them a
hash of those bytes and of a counter.
-/

namespace NodeKeys

/-- Random bytes, and how many seeds have been drawn from them. -/
structure EntropyPool where
  root : List UInt8
  drawn : Nat := 0

namespace EntropyPool

def seed (root : List UInt8) (number : Nat) : Seed where
  bytes := Hash.Keccak.shake256 (root ++ (List.range 8).map fun i => UInt8.ofNat (number >>> (8 * i))) 32
  length_bytes := Hash.Keccak.length_shake256 _ _

def draw (pool : EntropyPool) : Seed × EntropyPool :=
  (seed pool.root pool.drawn, { pool with drawn := pool.drawn + 1 })

end EntropyPool
end NodeKeys
