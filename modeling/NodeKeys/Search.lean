import NodeKeys.Error
import NodeKeys.Run

/-!
# Searches

Whoever looks for something usable tries one item after the other.  To try an item is to start something and to
consider its answer, which either ends the search or leads on to the next item.

A search can be run in one go (`complete`) or poll by poll (`begin` and `poll`).  A poll goes on until something
is not ready, so whatever is started costs as many polls as it makes its caller wait.
-/

namespace NodeKeys

/-- How the items of a search are tried. -/
structure Search (σ ι α β : Type) where
  start : ι → Run σ (Pending σ α)
  /-- Decide whether an answer ends the search, and log why if it does not. -/
  consider : ι → α → Run σ (Option β)
  /-- The error of a search that has tried all its items in vain. -/
  exhausted : KeygenError

namespace Search

variable {σ ι α β : Type}

/-- Take the answer of what was started for an item, and consider it. -/
def conclude (search : Search σ ι α β) (item : ι) (pending : Pending σ α) : Run σ (Option β) := do
  let answer ← Run.act pending.answer
  search.consider item answer

/-- A search without interruption. -/
def complete (search : Search σ ι α β) : List ι → Run σ (Except KeygenError β)
  | [] => return .error search.exhausted
  | item :: rest => do
    let pending ← search.start item
    match ← search.conclude item pending with
    | some found => return .ok found
    | none => search.complete rest

/-- How many times a search makes its caller wait if nothing comes between its polls. -/
def waits (search : Search σ ι α β) : List ι → World σ → Nat
  | [], _ => 0
  | item :: rest, world =>
    let started := search.start item world
    let concluded := search.conclude item started.value started.world
    started.value.waits +
      match concluded.value with
      | some _ => 0
      | none => search.waits rest concluded.world

/-- A search that waits. -/
structure Attempt (σ ι α : Type) where
  /-- The item that is being tried. -/
  item : ι
  pending : Pending σ α
  /-- The items after it. -/
  rest : List ι

/-- Where a poll leaves a search. -/
inductive Progress (σ ι α β : Type) where
  | waiting (attempt : Attempt σ ι α)
  | finished (result : Except KeygenError β)

/-- Try the next item, and go on as long as answers are ready at once. -/
def begin (search : Search σ ι α β) : List ι → Run σ (Progress σ ι α β)
  | [] => return .finished (.error search.exhausted)
  | item :: rest => do
    let pending ← search.start item
    match pending.waits with
    | waits + 1 => return .waiting { item, pending := { pending with waits }, rest }
    | 0 =>
      match ← search.conclude item pending with
      | some found => return .finished (.ok found)
      | none => search.begin rest

/-- Ask for the answer.  If it is ready, go on from it. -/
def poll (search : Search σ ι α β) (attempt : Attempt σ ι α) : Run σ (Progress σ ι α β) :=
  match attempt.pending.waits with
  | waits + 1 => return .waiting { attempt with pending := { attempt.pending with waits } }
  | 0 => do
    match ← search.conclude attempt.item attempt.pending with
    | some found => return .finished (.ok found)
    | none => search.begin attempt.rest

end Search
end NodeKeys
