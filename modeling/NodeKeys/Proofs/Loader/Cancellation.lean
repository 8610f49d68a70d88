import NodeKeys.Proofs.Loader.Alone

/-!
# Cancelled loads

A load may be dropped at any point at which it waits.  What its attempt has learned until then is lost: the
loader stays what it was, and the next load starts again from the first step, over whatever state the dropped
imports have left the source in.  So a loader on which every load was dropped is, to the next load, a new
loader.

That the loader stays what it was follows from the history alone: only a call that returned can have settled
its loader.  What the next load does was found for calls that nobody interferes with.
-/

namespace NodeKeys
namespace Loader

variable {σ : Type}

namespace Pool

/-! ## Only a call that returned can have settled its loader -/

/-- Some call of the loader has returned. -/
def HasReturned (pool : Pool σ) (id : LoaderId) : Prop :=
  ∃ (number : Nat) (outcome : Outcome σ), pool.calls[number]? = some ⟨id, .finished outcome⟩

/-- A call that has returned is not the one whose stage changes, if that one has not. -/
theorem HasReturned.setStage {pool : Pool σ} {id other : LoaderId} {number : Nat} {old : Stage σ}
    (returned : pool.HasReturned id) (present : pool.calls[number]? = some ⟨other, old⟩)
    (unfinished : old.outcome? = none) (stage : Stage σ) :
    (pool.setStage number stage).HasReturned id := by
  rcases returned with ⟨earlier, outcome, found⟩
  have different : earlier ≠ number := by
    rintro rfl
    rw [found] at present
    cases present
    cases unfinished
  exact ⟨earlier, outcome, (pool.call_setStage_of_ne different stage).trans found⟩

theorem Drives.unfinished {pool : Pool σ} {number : Nat} {id : LoaderId} {run : Run σ (Progress σ)}
    (drives : pool.Drives number id run) :
    ∃ stage, pool.calls[number]? = some ⟨id, stage⟩ ∧ stage.outcome? = none := by
  cases drives with
  | begins queued => exact ⟨_, queued, rfl⟩
  | continues running => exact ⟨_, running, rfl⟩

theorem HasReturned.poll {pool : Pool σ} {id : LoaderId} (returned : pool.HasReturned id)
    (number : Nat) (world : World σ) : (pool.poll number world).value.HasReturned id := by
  rcases pool.poll_cases number world with unchanged | ⟨_, outcome, queued, _, finished⟩ |
    ⟨other, run, drives, driven⟩
  · rw [unchanged]
    exact returned
  · rw [finished]
    exact returned.setStage queued rfl _
  · rcases drives.unfinished with ⟨stage, present, unfinished⟩
    rw [driven]
    cases (run world).value with
    | waiting attempt => exact returned.setStage present unfinished _
    | finished outcome =>
      have settled : (pool.settle other outcome).HasReturned id := returned
      exact settled.setStage present unfinished _

theorem HasReturned.move {pool : Pool σ} {id : LoaderId} (returned : pool.HasReturned id)
    (move : Move σ) (world : World σ) : (pool.move move world).value.HasReturned id := by
  cases move with
  | openCall other =>
    rcases returned with ⟨number, outcome, found⟩
    have earlier : number < pool.calls.length := (List.getElem?_eq_some_iff.mp found).1
    exact ⟨number, outcome, (List.getElem?_append_left earlier).trans found⟩
  | poll number => exact returned.poll number world
  | drop number =>
    change (pool.drop number).HasReturned id
    unfold drop
    split
    · exact returned.setStage ‹_› rfl _
    · exact returned.setStage ‹_› rfl _
    · exact returned
  | outside change => exact returned

/-- A move leaves a loader as it is, or a call of it has returned afterwards. -/
theorem loader_move (pool : Pool σ) (move : Move σ) (world : World σ) (id : LoaderId) :
    (pool.move move world).value.loaders id = pool.loaders id ∨
      (pool.move move world).value.HasReturned id := by
  cases move with
  | openCall other => exact Or.inl rfl
  | drop number => exact Or.inl (congrFun (pool.loaders_drop number) id)
  | outside change => exact Or.inl rfl
  | poll number =>
    rcases pool.loader_poll number world id with same | ⟨run, outcome, drives, finished, _⟩
    · exact Or.inl same
    · rcases drives.call_eq with ⟨stage, present⟩
      refine Or.inr ⟨number, outcome, ?_⟩
      change (pool.poll number world).value.calls[number]? = _
      rw [poll_of_drives_apply drives, finished]
      exact (pool.settle id outcome).call_setStage_self present _

/-- Whatever is done to a pool, a loader of which no call has returned is as it was. -/
theorem loader_moves (pool : Pool σ) (moves : List (Move σ)) (world : World σ) (id : LoaderId) :
    (pool.moves moves world).value.loaders id = pool.loaders id ∨
      (pool.moves moves world).value.HasReturned id := by
  -- From the first return on it only has to be remembered; until then the loader is untouched.
  have stays {reached : Pool σ} (returned : reached.HasReturned id) (rest : List (Move σ))
      (next : World σ) : (reached.moves rest next).value.HasReturned id := by
    induction rest generalizing reached next with
    | nil => exact returned
    | cons first rest inductionHypothesis =>
      exact inductionHypothesis (returned.move first next) (reached.move first next).world
  induction moves generalizing pool world with
  | nil => exact Or.inl rfl
  | cons first rest inductionHypothesis =>
    rcases pool.loader_move first world id with same | returned
    · rcases inductionHypothesis (pool.move first world).value (pool.move first world).world with
        unchanged | later
      · exact Or.inl (unchanged.trans same)
      · exact Or.inr later
    · exact Or.inr (stays returned rest (pool.move first world).world)

/-! ## Dropped calls -/

/-- Every call that was made on the loader was dropped. -/
def AllDropped (pool : Pool σ) (id : LoaderId) : Prop :=
  ∀ call ∈ pool.calls, call.loader = id → call.stage = .dropped

namespace AllDropped

variable {pool : Pool σ} {id : LoaderId}

theorem isBusy_eq_false (dropped : pool.AllDropped id) : pool.isBusy id = false := by
  rw [isBusy_eq_false_iff]
  intro number attempt found
  have impossible := dropped _ (List.mem_of_getElem? found) rfl
  cases impossible

theorem not_hasReturned (dropped : pool.AllDropped id) : ¬ pool.HasReturned id := by
  rintro ⟨number, outcome, found⟩
  have impossible := dropped _ (List.mem_of_getElem? found) rfl
  cases impossible

end AllDropped

/-! ## The next load -/

/-- Take a new loader whose source answers every import after the same number of waits, and any history at
the end of which all calls of the loader have been dropped.  Then the loader is still new.  A further load
returns if it is polled more often than the imports of a complete attempt wait together, and is then that
attempt.  If it is polled no more often than that, dropping it leaves the loader unsettled; it has started
the imports of the first steps, one for every `waits` polls that were begun.  In either case the load does
what a load of a new loader would do. -/
theorem dropped_loads_leave_no_trace (loaders : Loaders σ) (id : LoaderId) (source : Source σ)
    (steps : List Step) (waits : Nat) (history : List (Move σ)) (world : World σ) (polls : Nat)
    (new : loaders id = { source, steps }) (steady : source.Waits waits)
    (dropped : (({ loaders } : Pool σ).moves history world).value.AllDropped id) :
    let reached := ({ loaders } : Pool σ).moves history world
    let loader : Loader σ := { source, steps }
    let whole := loader.load reached.world
    let waited := (Event.imports whole.events).length * waits
    let ending := reached.value.loadWithin id polls reached.world
    let fresh := ({ loaders := fun _ => loader } : Pool σ).loadWithin id polls reached.world
    reached.value.loaders id = loader ∧
    (waited < polls →
      ending.value.1 = some whole.value.1 ∧
      ending.value.2.loaders = reached.value.loaders.set id whole.value.2 ∧
      ending.world = whole.world ∧ ending.events = whole.events) ∧
    (polls ≤ waited →
      ending.value.1 = none ∧
      ending.value.2.loaders = reached.value.loaders ∧
      (Event.imports ending.events).length = (polls + waits - 1) / waits ∧
      Event.imports ending.events <+: steps.map Step.specifier) ∧
    ending.value.1 = fresh.value.1 ∧ ending.value.2.loaders id = fresh.value.2.loaders id ∧
      ending.world = fresh.world ∧ ending.events = fresh.events := by
  intro reached loader whole waited ending fresh
  have unchanged : reached.value.loaders id = loader := by
    rcases loader_moves { loaders } history world id with same | returned
    · exact same.trans new
    · exact absurd returned dropped.not_hasReturned
  have idle := dropped.isBusy_eq_false
  have unsettled : (reached.value.loaders id).cell = none := congrArg Loader.cell unchanged
  have steadyNow : (reached.value.loaders id).source.Waits waits := by
    rw [unchanged]
    exact steady
  have finished := loadWithin_of_lt unsettled idle steadyNow polls reached.world
  have cancelled := loadWithin_of_le unsettled idle steadyNow polls reached.world
  rw [unchanged] at finished cancelled
  exact ⟨unchanged, finished, cancelled,
    loadWithin_congr unchanged.symm unsettled idle rfl polls reached.world⟩

/-- A source that has no packages, counts the imports, and takes two waits for each. -/
def countingSource : Source Nat where
  start _ imports := (⟨2, fun imports => (.ok none, imports)⟩, imports + 1)

/-- A load is dropped after one poll, and the next one after three: by then it has started both of its
imports again. -/
theorem dropped_loads_leave_no_trace_twice :
    let steps : List Step := [⟨"first", .asIs⟩, ⟨"second", .asIs⟩]
    let loaders : Loaders Nat := fun _ => { source := countingSource, steps }
    let reached := ({ loaders } : Pool Nat).moves [.openCall .processWide, .poll 0, .drop 0] ⟨0, 0⟩
    let ending := reached.value.loadWithin .processWide 3 reached.world
    reached.world.state = 1 ∧ ending.value.1 = none ∧
      Event.imports ending.events <+: ["first", "second"] ∧
      (Event.imports ending.events).length = 2 := by
  intro steps loaders reached ending
  have dropped : reached.value.AllDropped .processWide := by
    intro call member same
    rw [List.mem_singleton.mp (show call ∈ [⟨.processWide, .dropped⟩] from member)]
  have unfinished := (dropped_loads_leave_no_trace loaders .processWide countingSource steps 2 _ ⟨0, 0⟩ 3
    rfl (fun _ _ => rfl) dropped).2.2.1 (by decide)
  exact ⟨rfl, unfinished.1, unfinished.2.2.2, unfinished.2.2.1⟩

end Pool
end Loader
end NodeKeys
