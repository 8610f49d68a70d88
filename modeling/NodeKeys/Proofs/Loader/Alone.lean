import NodeKeys.Proofs.Loader.Attempt
import NodeKeys.Proofs.Loader.Pool

/-!
# One call at a time

A call that is polled without interference begins an attempt at its first poll and carries it on with every
further one, so what its polls do together is what its loader's search comes to when it is polled.  With enough
polls that is the complete attempt, and the call is a load.  With fewer it has started some of the imports, and the
loader is left as it was.
-/

namespace NodeKeys
namespace Loader

variable {σ : Type}

/-! ## An attempt alone -/

theorem load_of_unsettled {loader : Loader σ} (unsettled : loader.cell = none) (world : World σ) :
    loader.load world =
      ⟨((loader.attempt world).value, { loader with cell := some (loader.attempt world).value }),
        (loader.attempt world).world, (loader.attempt world).events⟩ := by
  rw [load, unsettled]
  simp only [Run.bind_apply, Run.pure_apply, List.append_nil]

/-! ## A call that nobody interferes with -/

namespace Pool

theorem setStage_setStage (pool : Pool σ) (number : Nat) (first second : Stage σ) :
    (pool.setStage number first).setStage number second = pool.setStage number second := by
  simp only [setStage, List.modify_modify_eq]
  rfl

theorem advance_advance (pool : Pool σ) (number : Nat) (id : LoaderId) (attempt : Attempt σ)
    (progress : Progress σ) :
    (pool.advance number id (.waiting attempt)).advance number id progress =
      pool.advance number id progress := by
  cases progress with
  | waiting later => exact pool.setStage_setStage number _ _
  | finished outcome => exact (pool.settle id outcome).setStage_setStage number _ _

section Called

variable {pool : Pool σ} {number : Nat} {id : LoaderId} {stage : Stage σ}

theorem call_advance (present : pool.calls[number]? = some ⟨id, stage⟩) (progress : Progress σ) :
    (pool.advance number id progress).calls[number]? =
      some ⟨id, match progress with
        | .waiting attempt => .running attempt
        | .finished outcome => .finished outcome⟩ := by
  cases progress with
  | waiting attempt => exact call_setStage_self present _
  | finished outcome => exact (pool.settle id outcome).call_setStage_self present _

theorem outcome?_advance (present : pool.calls[number]? = some ⟨id, stage⟩) (progress : Progress σ) :
    (pool.advance number id progress).outcome? number = progress.result? := by
  rw [outcome?, call_advance present]
  cases progress <;> rfl

/-- Polls of a call that has an attempt under way are polls of the attempt. -/
theorem pollTimes_advance (present : pool.calls[number]? = some ⟨id, stage⟩) (progress : Progress σ)
    (count : Nat) :
    (pool.advance number id progress).pollTimes number count = (do
      let later ← progress.pollTimes (pool.loaders id).search count
      return pool.advance number id later) := by
  induction count generalizing progress with
  | zero => rfl
  | succ count inductionHypothesis =>
    cases progress with
    | finished outcome =>
      have returned := call_advance present (.finished outcome)
      have idle : (pool.advance number id (.finished outcome)).poll number =
          pure (pool.advance number id (.finished outcome)) := by
        simp only [poll, returned]
      rw [pollTimes, idle, pure_bind, inductionHypothesis]
      cases count <;> rfl
    | waiting attempt =>
      have drives : (pool.advance number id (.waiting attempt)).Drives number id
          ((pool.loaders id).search.poll attempt) :=
        .continues (call_advance present (.waiting attempt))
      simp only [pollTimes, poll_of_drives drives, advance_advance, bind_assoc, pure_bind,
        inductionHypothesis, Search.Progress.pollTimes]

/-- A call that is first polled when nobody else works on its loader carries out an attempt alone. -/
theorem pollTimes_of_begins (queued : pool.calls[number]? = some ⟨id, .queued⟩)
    (unsettled : (pool.loaders id).cell = none) (idle : pool.isBusy id = false) (count : Nat) :
    pool.pollTimes number (count + 1) = (do
      let progress ← (pool.loaders id).search.polled (pool.loaders id).steps count
      return pool.advance number id progress) := by
  simp only [pollTimes, poll_of_drives (.begins queued unsettled idle), bind_assoc, pure_bind,
    pollTimes_advance queued, Search.polled]

end Called

theorem isBusy_openCall (pool : Pool σ) (id other : LoaderId) :
    (pool.openCall id).isBusy other = pool.isBusy other := by
  simp [isBusy, openCall, Stage.isRunning]

/-- A call that is dropped before it is polled does nothing. -/
theorem loadWithin_zero (pool : Pool σ) (id : LoaderId) (world : World σ) :
    ∃ after : Pool σ, pool.loadWithin id 0 world = ⟨(none, after), world, []⟩ ∧
      after.loaders = pool.loaders := by
  refine ⟨(pool.openCall id).drop pool.calls.length, ?_, ?_⟩
  · have unreturned : (pool.openCall id).outcome? pool.calls.length = none := by
      rw [outcome?, call_openCall_self]
      rfl
    simp only [loadWithin, pollTimes, pure_bind, Run.pure_apply, unreturned]
  · rw [loaders_drop, loaders_openCall]

/-- A call that is made, polled and dropped when nobody else works on its loader leaves the loader as it
was, or settles it. -/
theorem loadWithin_succ {pool : Pool σ} {id : LoaderId} (unsettled : (pool.loaders id).cell = none)
    (idle : pool.isBusy id = false) (count : Nat) (world : World σ) :
    let polled := (pool.loaders id).search.polled (pool.loaders id).steps count world
    ∃ after : Pool σ,
      pool.loadWithin id (count + 1) world =
        ⟨(polled.value.result?, after), polled.world, polled.events⟩ ∧
      after.loaders = match polled.value with
        | .waiting _ => pool.loaders
        | .finished outcome => pool.loaders.set id { pool.loaders id with cell := some outcome } := by
  intro polled
  have queued := pool.call_openCall_self id
  have begun := pollTimes_of_begins queued unsettled
    ((pool.isBusy_openCall id id).trans idle) count
  refine ⟨((pool.openCall id).advance pool.calls.length id polled.value).drop pool.calls.length, ?_, ?_⟩
  · rw [loadWithin, begun]
    simp only [Run.bind_apply, Run.pure_apply, List.append_nil, outcome?_advance queued]
    rfl
  · rw [loaders_drop]
    cases polled.value <;> rfl

section Polls

variable {pool : Pool σ} {id : LoaderId} {waits : Nat}

/-- A call that is polled more often than its imports make it wait is a load. -/
theorem loadWithin_of_lt (unsettled : (pool.loaders id).cell = none) (idle : pool.isBusy id = false)
    (steady : (pool.loaders id).source.Waits waits) (polls : Nat) (world : World σ) :
    let whole := (pool.loaders id).load world
    let ending := pool.loadWithin id polls world
    (Event.imports whole.events).length * waits < polls →
      ending.value.1 = some whole.value.1 ∧ ending.value.2.loaders = pool.loaders.set id whole.value.2 ∧
      ending.world = whole.world ∧ ending.events = whole.events := by
  intro whole ending enough
  have complete : whole = _ := load_of_unsettled unsettled world
  rw [complete] at enough ⊢
  cases polls with
  | zero => exact absurd enough (Nat.not_lt_zero _)
  | succ count =>
    rcases loadWithin_succ unsettled idle count world with ⟨after, ended, left⟩
    rw [search, polled_of_lt steady enough] at ended left
    change ending = _ at ended
    rw [ended]
    exact ⟨rfl, left, rfl, rfl⟩

/-- A call that is polled no more often than that, and then dropped, leaves the loader as it was.  It has
started one import for every `waits` polls that were begun, in the order of the steps. -/
theorem loadWithin_of_le (unsettled : (pool.loaders id).cell = none) (idle : pool.isBusy id = false)
    (steady : (pool.loaders id).source.Waits waits) (polls : Nat) (world : World σ) :
    let whole := (pool.loaders id).load world
    let ending := pool.loadWithin id polls world
    polls ≤ (Event.imports whole.events).length * waits →
      ending.value.1 = none ∧ ending.value.2.loaders = pool.loaders ∧
      (Event.imports ending.events).length = (polls + waits - 1) / waits ∧
      Event.imports ending.events <+: (pool.loaders id).steps.map Step.specifier := by
  intro whole ending short
  have complete : whole = _ := load_of_unsettled unsettled world
  rw [complete] at short
  cases polls with
  | zero =>
    rcases pool.loadWithin_zero id world with ⟨after, ended, left⟩
    change ending = _ at ended
    rw [ended]
    refine ⟨rfl, left, ?_, List.nil_prefix⟩
    cases waits with
    | zero => rfl
    | succ waits => exact (Nat.div_eq_of_lt (by omega)).symm
  | succ count =>
    rcases loadWithin_succ unsettled idle count world with ⟨after, ended, left⟩
    rcases polled_of_le steady short with ⟨attempt, waiting, started, ordered⟩
    rw [search, waiting] at ended left
    change ending = _ at ended
    rw [ended]
    exact ⟨rfl, left, started, ordered⟩

/-- What such a call does depends on nothing but its loader. -/
theorem loadWithin_congr {other : Pool σ} (same : other.loaders id = pool.loaders id)
    (unsettled : (pool.loaders id).cell = none) (idle : pool.isBusy id = false)
    (otherIdle : other.isBusy id = false) (polls : Nat) (world : World σ) :
    let ending := pool.loadWithin id polls world
    let otherEnding := other.loadWithin id polls world
    ending.value.1 = otherEnding.value.1 ∧
      ending.value.2.loaders id = otherEnding.value.2.loaders id ∧
      ending.world = otherEnding.world ∧ ending.events = otherEnding.events := by
  intro ending otherEnding
  cases polls with
  | zero =>
    rcases pool.loadWithin_zero id world with ⟨after, ended, left⟩
    rcases other.loadWithin_zero id world with ⟨otherAfter, otherEnded, otherLeft⟩
    change ending = _ at ended
    change otherEnding = _ at otherEnded
    rw [ended, otherEnded]
    refine ⟨rfl, ?_, rfl, rfl⟩
    dsimp only
    rw [left, otherLeft, same]
  | succ count =>
    have otherUnsettled : (other.loaders id).cell = none := same ▸ unsettled
    rcases loadWithin_succ unsettled idle count world with ⟨after, ended, left⟩
    rcases loadWithin_succ otherUnsettled otherIdle count world with ⟨otherAfter, otherEnded, otherLeft⟩
    rw [same] at otherEnded otherLeft
    change ending = _ at ended
    change otherEnding = _ at otherEnded
    rw [ended, otherEnded]
    refine ⟨rfl, ?_, rfl, rfl⟩
    dsimp only
    rw [left, otherLeft]
    cases ((pool.loaders id).search.polled (pool.loaders id).steps count world).value with
    | waiting attempt => exact same.symm
    | finished outcome => exact (if_pos rfl).trans (if_pos rfl).symm

end Polls

end Pool
end Loader
end NodeKeys
