import NodeKeys.Loader.Basic

/-!
# Loaders under many calls

Several loaders may work on the same world, and several calls may be under way on each of them.  A call
makes progress only when it is polled, and it may be dropped whenever it is not finished.  A call that
finds its loader unsettled starts an attempt, unless another call has one under way; then it waits.  The
attempt belongs to the call that started it and is lost when that call is dropped, so that the next call
to be polled starts again from the first step.

A pool says nothing about the order of polls.  Its moves are also open to the rest of the program, which
may change the world between any two of them.
-/

namespace NodeKeys

/-- Which loader is meant. -/
inductive LoaderId where
  /-- The loader that the whole process shares. -/
  | processWide
  /-- A loader of its own. -/
  | numbered (number : Nat)
  deriving DecidableEq, Repr

/-- All loaders. -/
abbrev Loaders (σ : Type) := LoaderId → Loader σ

def Loaders.set {σ : Type} (loaders : Loaders σ) (id : LoaderId) (loader : Loader σ) : Loaders σ :=
  fun other => if other = id then loader else loaders other

namespace Loader

variable {σ : Type}

/-- How far a call has come. -/
inductive Stage (σ : Type) where
  /-- Not polled yet, or waiting for another call's attempt. -/
  | queued
  /-- Carrying out an attempt. -/
  | running (attempt : Attempt σ)
  /-- Returned. -/
  | finished (outcome : Outcome σ)
  /-- Dropped before it returned. -/
  | dropped

namespace Stage

def isRunning : Stage σ → Bool
  | running _ => true
  | _ => false

def outcome? : Stage σ → Option (Outcome σ)
  | finished outcome => some outcome
  | _ => none

end Stage

/-- A call of a loader. -/
structure Call (σ : Type) where
  loader : LoaderId
  stage : Stage σ

/-- Loaders and the calls that were made on them, oldest first. -/
structure Pool (σ : Type) where
  loaders : Loaders σ
  calls : List (Call σ) := []

namespace Pool

/-- Whether some call has an attempt under way on this loader. -/
def isBusy (pool : Pool σ) (id : LoaderId) : Bool :=
  pool.calls.any fun call => call.loader = id && call.stage.isRunning

def setStage (pool : Pool σ) (number : Nat) (stage : Stage σ) : Pool σ :=
  { pool with calls := pool.calls.modify number fun call => { call with stage } }

def settle (pool : Pool σ) (id : LoaderId) (outcome : Outcome σ) : Pool σ :=
  { pool with
    loaders := pool.loaders.set id { pool.loaders id with cell := some outcome } }

/-- Make a call.  Nothing happens on the loader until the call is polled. -/
def openCall (pool : Pool σ) (id : LoaderId) : Pool σ :=
  { pool with calls := pool.calls ++ [⟨id, .queued⟩] }

/-- Record where a poll has left the attempt of a call. -/
def advance (pool : Pool σ) (number : Nat) (id : LoaderId) : Progress σ → Pool σ
  | .waiting attempt => pool.setStage number (.running attempt)
  | .finished outcome => (pool.settle id outcome).setStage number (.finished outcome)

def poll (pool : Pool σ) (number : Nat) : Run σ (Pool σ) :=
  match pool.calls[number]? with
  | none => return pool
  | some call =>
    let loader := pool.loaders call.loader
    match call.stage with
    | .finished _ | .dropped => return pool
    | .running attempt => do
      let progress ← loader.search.poll attempt
      return pool.advance number call.loader progress
    | .queued =>
      match loader.cell with
      | some outcome => return pool.setStage number (.finished outcome)
      | none =>
        if pool.isBusy call.loader then return pool
        else do
          let progress ← loader.search.begin loader.steps
          return pool.advance number call.loader progress

def drop (pool : Pool σ) (number : Nat) : Pool σ :=
  match pool.calls[number]? with
  | some ⟨_, .queued⟩ | some ⟨_, .running _⟩ => pool.setStage number .dropped
  | _ => pool

def outcome? (pool : Pool σ) (number : Nat) : Option (Outcome σ) :=
  pool.calls[number]?.bind fun call => call.stage.outcome?

/-- Something that can happen to a pool. -/
inductive Move (σ : Type) where
  /-- A call is made. -/
  | openCall (id : LoaderId)
  /-- A call is polled. -/
  | poll (number : Nat)
  /-- A call is dropped. -/
  | drop (number : Nat)
  /-- Something else changes the state of packages and factories. -/
  | outside (change : σ → σ)

def move (pool : Pool σ) : Move σ → Run σ (Pool σ)
  | .openCall id => return pool.openCall id
  | .poll number => pool.poll number
  | .drop number => return pool.drop number
  | .outside change => do
    Run.act fun state => ((), change state)
    return pool

def moves (pool : Pool σ) : List (Move σ) → Run σ (Pool σ)
  | [] => return pool
  | first :: rest => do
    let next ← pool.move first
    next.moves rest

def pollTimes (pool : Pool σ) (number : Nat) : (count : Nat) → Run σ (Pool σ)
  | 0 => return pool
  | count + 1 => do
    let next ← pool.poll number
    next.pollTimes number count

def pollEach (pool : Pool σ) : List Nat → Run σ (Pool σ)
  | [] => return pool
  | number :: rest => do
    let next ← pool.poll number
    next.pollEach rest

/-- Poll all of these calls in rounds. -/
def pollRounds (pool : Pool σ) (numbers : List Nat) : (count : Nat) → Run σ (Pool σ)
  | 0 => return pool
  | count + 1 => do
    let next ← pool.pollEach numbers
    next.pollRounds numbers count

/-- Make a call, poll it at most a number of times, and drop it if it has not returned by then. -/
def loadWithin (pool : Pool σ) (id : LoaderId) (polls : Nat) :
    Run σ (Option (Outcome σ) × Pool σ) := do
  let number := pool.calls.length
  let polled ← (pool.openCall id).pollTimes number polls
  return (polled.outcome? number, polled.drop number)

/-- Make a number of calls and poll them in rounds until all have returned. -/
def loadTogether (pool : Pool σ) (id : LoaderId) (count : Nat) :
    Run σ (List (Option (Outcome σ)) × Pool σ) := fun world =>
  let loader := pool.loaders id
  let rounds := if loader.isSettled then 1 else loader.search.waits loader.steps world + 1
  let numbers := List.range' pool.calls.length count
  let opened := (List.replicate count id).foldl openCall pool
  let ending := opened.pollRounds numbers rounds world
  { ending with value := (numbers.map ending.value.outcome?, ending.value) }

end Pool

/-- Whether two outcomes are the same handle or equal errors. -/
def Outcome.same : Outcome σ → Outcome σ → Bool
  | .ok first, .ok second => first.stamp == second.stamp
  | .error first, .error second => first == second
  | _, _ => false

end Loader
end NodeKeys
