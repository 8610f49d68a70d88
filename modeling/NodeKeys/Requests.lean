import NodeKeys.Generator

/-!
# Requests under way

A program may have any number of requests under way on its loaders: plain loads, derivations and whole key
generations.  A request makes one call of its loader and waits for it.  A load returns what the call returned;
the others go on to try the factories of the implementation, and wait for each of them.  Like the call a
request makes progress only when it is polled, and it may be dropped as long as it has not returned; a call that
has not returned by then is dropped with it.  A request and its call have the same number.

A key generation reads or draws its seed first.  If there is none to be had, it returns without ever polling its
call.
-/

namespace NodeKeys

open Loader

variable {σ : Type}

/-- What a request is for. -/
inductive Purpose where
  | load
  | derive (policy : FallbackPolicy) (seed : Seed)
  | generate (policy : FallbackPolicy) (text? : Option String) (entropy : Entropy)

/-- What a request returns. -/
inductive Reply (σ : Type) where
  | loaded (outcome : Outcome σ)
  | derived (result : Except KeygenError Derivation)
  | generated (result : Except KeygenError SigningKeys)

/-- What a request wants of the implementation. -/
structure Order where
  policy : FallbackPolicy
  seed : Seed
  /-- The text of the seed, if the request is for keys and not only for a derivation. -/
  seedText? : Option String

/-- What a request wants of the implementation, if it gets as far as its loader.  A load wants nothing of it. -/
def Purpose.order : Purpose → Except KeygenError (Option Order)
  | load => .ok none
  | derive policy seed => .ok (some ⟨policy, seed, none⟩)
  | generate policy text? entropy =>
    (requestedSeed text? entropy).map fun (seed, text) => some ⟨policy, seed, some text⟩

/-- How far a request has come. -/
inductive Phase (σ : Type) where
  /-- Not polled yet, or waiting for its call. -/
  | pending
  /-- Waiting for a factory. -/
  | trying (order : Order) (attempt : CandidateChain.Attempt σ)
  | returned (reply : Reply σ)
  /-- Dropped before it returned. -/
  | dropped

namespace Order

/-- Make a reply of what the factories gave. -/
def reply (order : Order) (result : Except KeygenError Derivation) : Run σ (Reply σ) :=
  match order.seedText? with
  | none => return .derived result
  | some seedText =>
    match result with
    | .error error => return .generated (.error error)
    | .ok derivation => Reply.generated <$> publish seedText derivation

def search (order : Order) :
    Search σ (Candidate σ) (Option (Except FactoryError RawKeyPair)) Derivation :=
  CandidateChain.search order.policy order.seed

/-- Go on from where a poll has left the factories. -/
def proceed (order : Order) : CandidateChain.Progress σ → Run σ (Phase σ)
  | .waiting attempt => return .trying order attempt
  | .finished result => Phase.returned <$> order.reply result

/-- Go on with the outcome of the loader. -/
def begin (order? : Option Order) (outcome : Outcome σ) : Run σ (Phase σ) :=
  match order? with
  | none => return .returned (.loaded outcome)
  | some order =>
    match outcome with
    | .error error => Phase.returned <$> order.reply (.error error)
    | .ok handle => do
      let progress ← order.search.begin (resolveCandidates handle.module)
      order.proceed progress

end Order

/-- A request that was made. -/
structure Request (σ : Type) where
  purpose : Purpose
  phase : Phase σ := .pending

/-- The requests that were made, oldest first, and the calls that they made. -/
structure Requests (σ : Type) where
  pool : Pool σ
  entries : List (Request σ) := []

namespace Requests

/-- Loaders of which nothing has been requested yet. -/
def start (loaders : Loaders σ) : Requests σ where
  pool := { loaders }

def setPhase (requests : Requests σ) (number : Nat) (phase : Phase σ) : Requests σ :=
  { requests with entries := requests.entries.modify number fun request => { request with phase } }

/-- Make a request.  Nothing happens on the loader until the request is polled. -/
def make (requests : Requests σ) (id : LoaderId) (purpose : Purpose) : Requests σ where
  pool := requests.pool.openCall id
  entries := requests.entries ++ [{ purpose }]

def poll (requests : Requests σ) (number : Nat) : Run σ (Requests σ) :=
  match requests.entries[number]? with
  | some ⟨purpose, .pending⟩ =>
    match purpose.order with
    | .error error =>
      return { requests with pool := requests.pool.drop number }.setPhase number
        (.returned (.generated (.error error)))
    | .ok order? => do
      let polled ← requests.pool.poll number
      match polled.outcome? number with
      | none => return { requests with pool := polled }
      | some outcome => do
        let phase ← Order.begin order? outcome
        return { requests with pool := polled }.setPhase number phase
  | some ⟨_, .trying order attempt⟩ => do
    let progress ← order.search.poll attempt
    let phase ← order.proceed progress
    return requests.setPhase number phase
  | _ => return requests

/-- Drop a request that has not returned, and its call. -/
def drop (requests : Requests σ) (number : Nat) : Requests σ :=
  match requests.entries[number]? with
  | some ⟨_, .pending⟩ | some ⟨_, .trying _ _⟩ =>
    { requests with pool := requests.pool.drop number }.setPhase number .dropped
  | _ => requests

/-- Something that can happen while requests are under way. -/
inductive Move (σ : Type) where
  /-- A request is made. -/
  | make (id : LoaderId) (purpose : Purpose)
  /-- A request is polled. -/
  | poll (number : Nat)
  /-- A request is dropped. -/
  | drop (number : Nat)
  /-- Something else changes the state of packages and factories. -/
  | outside (change : σ → σ)

def move (requests : Requests σ) : Move σ → Run σ (Requests σ)
  | .make id purpose => return requests.make id purpose
  | .poll number => requests.poll number
  | .drop number => return requests.drop number
  | .outside change => do
    Run.act fun state => ((), change state)
    return requests

def moves (requests : Requests σ) : List (Move σ) → Run σ (Requests σ)
  | [] => return requests
  | first :: rest => do
    let next ← requests.move first
    next.moves rest

def loaderOf? (requests : Requests σ) (number : Nat) : Option LoaderId :=
  requests.pool.calls[number]?.map Call.loader

def concerns? (requests : Requests σ) : Move σ → Option LoaderId
  | .make id _ => some id
  | .poll number | .drop number => requests.loaderOf? number
  | .outside _ => none

end Requests
end NodeKeys
