import NodeKeys.Blocks

/-!
# Extendable output from the Keccak permutation

A state of twenty-five words is permuted by twenty-four rounds.  A sponge mixes the message into the
first `rate` bytes of the state, block by block, and then gives out as many bytes as are wanted.
SHAKE128 and SHAKE256 differ in the rate alone.

Output is read in whole blocks.  Asking for more blocks never changes the ones before, because each
block depends only on the state that the permutation has reached.
-/

namespace NodeKeys
namespace Hash
namespace Keccak

/-- Twenty-five words; the word of column `x` and row `y` has number `x + 5 * y`. -/
abbrev State := Vector UInt64 25

/-- The word of a column and a row, both counted around the edges. -/
def State.lane (state : State) (column row : Nat) : UInt64 :=
  state.get (Fin.ofNat 25 (column % 5 + 5 * (row % 5)))

/-- Rotate a word to the left by less than its width. -/
def rotate (word : UInt64) (amount : UInt64) : UInt64 :=
  if amount = 0 then word else (word <<< amount) ||| (word >>> (64 - amount))

/-- How far each word is rotated. -/
def rotations : Vector UInt64 25 := #v[
  0, 1, 62, 28, 27, 36, 44, 6, 55, 20, 3, 10, 43, 25, 39, 41, 45, 15, 21, 8, 18, 2, 61, 56, 14]

/-- What is added to the first word in each round. -/
def roundConstants : List UInt64 := [
  0x0000000000000001, 0x0000000000008082, 0x800000000000808a, 0x8000000080008000,
  0x000000000000808b, 0x0000000080000001, 0x8000000080008081, 0x8000000000008009,
  0x000000000000008a, 0x0000000000000088, 0x0000000080008009, 0x000000008000000a,
  0x000000008000808b, 0x800000000000008b, 0x8000000000008089, 0x8000000000008003,
  0x8000000000008002, 0x8000000000000080, 0x000000000000800a, 0x800000008000000a,
  0x8000000080008081, 0x8000000000008080, 0x0000000080000001, 0x8000000080008008]

def parities (state : State) : Vector UInt64 5 :=
  Vector.ofFn fun x =>
    state.lane x 0 ^^^ state.lane x 1 ^^^ state.lane x 2 ^^^ state.lane x 3 ^^^ state.lane x 4

/-- Mix the parities of the two neighbouring columns into every word. -/
def mixColumns (state : State) : State :=
  let parity := parities state
  let wrapped (x : Nat) := parity.get (Fin.ofNat 5 x)
  let change := Vector.ofFn fun x : Fin 5 => wrapped (x + 4) ^^^ rotate (wrapped (x + 1)) 1
  Vector.ofFn fun i => state.get i ^^^ change.get (Fin.ofNat 5 i)

/-- Rotate every word and move it to its new place: row `y` takes the word of row `x`, where the old
column is `x + 3 * y`. -/
def moveLanes (state : State) : State :=
  let rotated : State := Vector.ofFn fun i => rotate (state.get i) (rotations.get i)
  Vector.ofFn fun i => rotated.lane (i % 5 + 3 * (i / 5)) (i % 5)

/-- Combine every word with the next two of its row; the one step that is not linear. -/
def combineRows (state : State) : State :=
  Vector.ofFn fun i =>
    let x := i.val % 5
    let y := i.val / 5
    state.get i ^^^ ((~~~ state.lane (x + 1) y) &&& state.lane (x + 2) y)

def round (state : State) (constant : UInt64) : State :=
  let combined := combineRows (moveLanes (mixColumns state))
  combined.set 0 (combined.get 0 ^^^ constant)

def permute (state : State) : State :=
  roundConstants.foldl round state

/-- Read up to eight bytes as a little-endian word. -/
def word (bytes : List UInt8) : UInt64 :=
  bytes.foldr (fun byte high => byte.toUInt64 ||| (high <<< 8)) 0

/-- The eight bytes of a word, low end first. -/
def wordBytes (value : UInt64) : List UInt8 :=
  (List.range 8).map fun i => (value >>> (8 * i).toUInt64).toUInt8

/-- Mix a block into the front of the state and permute. -/
def absorb (state : State) (block : List UInt8) : State :=
  let lanes := ((blocks 8 block).map word).toArray
  permute (Vector.ofFn fun i => state.get i ^^^ lanes.getD i 0)

/-- The message filled up to whole blocks: the mark `1111` of extendable output, zeros, and a one in
the last bit. -/
def padded (rate : Nat) (message : List UInt8) : List UInt8 :=
  let gap := rate - message.length % rate
  if gap ≤ 1 then message ++ [0x9f]
  else message ++ [0x1f] ++ List.replicate (gap - 2) 0 ++ [0x80]

def absorbAll (rate : Nat) (message : List UInt8) : State :=
  (blocks rate (padded rate message)).foldl absorb (Vector.replicate 25 0)

def State.output (rate : Nat) (state : State) : List UInt8 :=
  (state.toList.flatMap wordBytes).take rate

def squeeze (rate : Nat) : (count : Nat) → State → List (List UInt8)
  | 0, _ => []
  | count + 1, state => state.output rate :: squeeze rate count (permute state)

/-- A sponge with a rate of 168 bytes. -/
def shake128Rate : Nat := 168

/-- A sponge with a rate of 136 bytes. -/
def shake256Rate : Nat := 136

/-- The first `size` bytes of SHAKE256 of a message. -/
def shake256 (message : List UInt8) (size : Nat) : List UInt8 :=
  let count := (size + shake256Rate - 1) / shake256Rate
  ((squeeze shake256Rate count (absorbAll shake256Rate message)).flatten).take size

theorem length_wordBytes (value : UInt64) : (wordBytes value).length = 8 := by
  simp [wordBytes]

theorem length_output {rate : Nat} (bounded : rate ≤ 200) (state : State) :
    (state.output rate).length = rate := by
  have total : (state.toList.flatMap wordBytes).length = 200 := by
    rw [List.length_flatMap]
    simp only [length_wordBytes, List.map_const']
    rw [List.sum_replicate_nat, Vector.length_toList]
  rw [State.output, List.length_take, total]
  omega

theorem length_squeeze (rate count : Nat) (state : State) :
    (squeeze rate count state).length = count := by
  induction count generalizing state with
  | zero => rfl
  | succ count ih => simp [squeeze, ih]

theorem length_flatten_squeeze {rate : Nat} (bounded : rate ≤ 200) (count : Nat) (state : State) :
    (squeeze rate count state).flatten.length = count * rate := by
  induction count generalizing state with
  | zero => simp [squeeze]
  | succ count ih =>
    simp only [squeeze, List.flatten_cons, List.length_append, length_output bounded, ih]
    rw [Nat.succ_mul, Nat.add_comm]

theorem length_shake256 (message : List UInt8) (size : Nat) :
    (shake256 message size).length = size := by
  have enough : size ≤ (size + shake256Rate - 1) / shake256Rate * shake256Rate := by
    simp only [shake256Rate]
    omega
  rw [shake256, List.length_take, length_flatten_squeeze (by decide)]
  omega

end Keccak
end Hash
end NodeKeys
