import NodeKeys.Proofs.Requests

/-!
# Loaders compute once

The requests of a program may be polled in any order and dropped at any time, alone or together, and they may
be plain loads or part of a derivation or a key generation.  No such order makes a loader compute twice:
whatever it computes first is what every caller is given, at whatever time it asks.

A dropped attempt is the one thing that a loader forgets.  That is why nothing is said about how many
imports are started before it is settled.
-/

namespace NodeKeys
namespace Requests

open Loader

variable {σ : Type}

/-- A call that has returned was given what its loader keeps. -/
theorem Sound.kept_of_outcome {requests : Requests σ} (sound : requests.Sound) {number : Nat}
    {id : LoaderId} {outcome : Outcome σ} (made : requests.loaderOf? number = some id)
    (returned : requests.pool.outcome? number = some outcome) :
    (requests.pool.loaders id).cell = some outcome := by
  rcases Pool.outcome?_eq_some returned with ⟨other, finished⟩
  rw [loaderOf?, finished] at made
  cases made
  exact sound.pool.kept finished

/-- A plain load that has returned was given what its loader keeps. -/
theorem Sound.kept_of_loaded {requests : Requests σ} (sound : requests.Sound) {number : Nat}
    {id : LoaderId} {reply : Reply σ} (made : requests.loaderOf? number = some id)
    (returned : requests.entries[number]? = some ⟨.load, .returned reply⟩) :
    ∃ outcome, reply = .loaded outcome ∧ (requests.pool.loaders id).cell = some outcome := by
  have accounted := sound.accounted returned
  cases accounted with
  | refused refusal => cases refusal
  | @follows order? other outcome _ accepted same kept follows =>
    cases accepted
    cases follows
    rw [made] at same
    cases same
    exact ⟨outcome, rfl, kept⟩

/-- A move that is not about a loader leaves it as it is. -/
theorem loader_move_of_ne (requests : Requests σ) {move : Move σ} {id : LoaderId}
    (elsewhere : requests.concerns? move ≠ some id) (world : World σ) :
    (requests.move move world).value.pool.loaders id = requests.pool.loaders id := by
  rcases requests.loader_move move world id with same | ⟨number, run, _, rfl, drives, _⟩
  · exact same
  · rcases drives.call_eq with ⟨stage, found⟩
    refine absurd ?_ elsewhere
    rw [concerns?, loaderOf?, found]
    rfl

/-- In every state that requests can reach, and for each loader: at most one attempt is under way; the cell
is filled only by an attempt that runs to its end, and then keeps its content; from then on no request of
the loader starts an import; all loads that return, now or later, return what the cell keeps; and nothing
that is done elsewhere changes the loader. -/
theorem each_loader_computes_once (loaders : Loaders σ) (moves : List (Move σ)) (world : World σ)
    (id : LoaderId) :
    let reached := (start loaders).moves moves world
    let requests := reached.value
    (∀ (first second : Nat) (firstAttempt secondAttempt : Attempt σ),
      requests.pool.calls[first]? = some ⟨id, .running firstAttempt⟩ →
      requests.pool.calls[second]? = some ⟨id, .running secondAttempt⟩ → first = second) ∧
    (∀ move outcome, (requests.pool.loaders id).cell = none →
      ((requests.move move reached.world).value.pool.loaders id).cell = some outcome →
      ∃ number run, move = .poll number ∧ requests.pool.Drives number id run ∧
        (run reached.world).value = .finished outcome) ∧
    (∀ outcome, (requests.pool.loaders id).cell = some outcome → ∀ later,
      let afterwards := requests.moves later reached.world
      (afterwards.value.pool.loaders id).cell = some outcome ∧
      ∀ move, afterwards.value.concerns? move = some id →
        Event.imports (afterwards.value.move move afterwards.world).events = []) ∧
    (∀ number outcome, requests.loaderOf? number = some id →
      requests.pool.outcome? number = some outcome → ∀ later,
      let afterwards := (requests.moves later reached.world).value
      (∀ other returned, afterwards.loaderOf? other = some id →
        afterwards.pool.outcome? other = some returned → returned = outcome) ∧
      ∀ other reply, afterwards.loaderOf? other = some id →
        afterwards.entries[other]? = some ⟨.load, .returned reply⟩ → reply = .loaded outcome) ∧
    ∀ move, requests.concerns? move ≠ some id →
      (requests.move move reached.world).value.pool.loaders id = requests.pool.loaders id := by
  intro reached requests
  have sound : requests.Sound := (sound_start loaders).moves moves world
  have keeps {outcome : Outcome σ} (kept : (requests.pool.loaders id).cell = some outcome)
      (later : List (Move σ)) :
      (((requests.moves later reached.world).value.pool.loaders id).cell = some outcome) :=
    (becomes_moves sound later reached.world id).keeps kept
  refine ⟨?alone, ?written, ?settled, ?returned, ?elsewhere⟩
  case alone => exact fun _ _ _ _ first second => sound.pool.alone first second
  case written =>
    intro move outcome unsettled settled
    rcases requests.loader_move move reached.world id with same |
      ⟨number, run, written, polled, drives, finished, filled⟩
    · rw [same, unsettled] at settled
      cases settled
    · rw [filled] at settled
      cases settled
      exact ⟨number, run, polled, drives, finished⟩
  case settled =>
    intro outcome kept later
    refine ⟨keeps kept later, fun move about => ?_⟩
    exact imports_move_of_settled (sound.moves later reached.world) about (keeps kept later) _
  case returned =>
    intro number outcome made returned later
    have soundLater := sound.moves later reached.world
    have keptLater := keeps (sound.kept_of_outcome made returned) later
    constructor
    · intro other again madeOther returnedOther
      have same := keptLater.symm.trans (soundLater.kept_of_outcome madeOther returnedOther)
      exact (Option.some.inj same).symm
    · intro other reply madeOther returnedOther
      rcases soundLater.kept_of_loaded madeOther returnedOther with ⟨again, rfl, kept⟩
      rw [Option.some.inj (keptLater.symm.trans kept)]
  case elsewhere => exact fun move elsewhere => requests.loader_move_of_ne elsewhere reached.world

end Requests
end NodeKeys
