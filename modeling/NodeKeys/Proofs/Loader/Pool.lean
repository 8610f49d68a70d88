import NodeKeys.Loader.Pool

/-!
# What stays true of loaders under many calls

Whatever is done to a pool, and in whatever order, three facts about each of its loaders stay true: no two
calls carry out an attempt on it, none does once it is settled, and whatever a call has returned is what
the loader keeps.  They are stated together in `Pool.Sound`, because none of them is preserved without the
others: a second attempt could overwrite the cell under a call that has already returned.

What a poll can do is said once, in `Pool.poll_cases`.  A poll either changes nothing, or it hands out a
kept outcome, or it drives an attempt.  Only the last of these has effects, and only it can settle a loader.
-/

namespace NodeKeys
namespace Loader

variable {σ : Type}

/-! ## Loaders are settled at most once -/

/-- The second loader is the first one, or the first one after its cell was filled. -/
def Becomes (before after : Loader σ) : Prop :=
  after = before ∨ before.cell = none ∧ ∃ outcome, after = { before with cell := some outcome }

namespace Becomes

theorem refl (loader : Loader σ) : Becomes loader loader :=
  Or.inl rfl

theorem trans {first second third : Loader σ} (before : Becomes first second)
    (after : Becomes second third) : Becomes first third := by
  rcases before with same | ⟨unsettled, outcome, filled⟩
  · exact same ▸ after
  · rcases after with same | ⟨impossible, _⟩
    · exact Or.inr ⟨unsettled, outcome, same.trans filled⟩
    · rw [filled] at impossible
      cases impossible

/-- A kept outcome stays. -/
theorem keeps {before after : Loader σ} (becomes : Becomes before after) {outcome : Outcome σ}
    (kept : before.cell = some outcome) : after.cell = some outcome := by
  rcases becomes with same | ⟨unsettled, _⟩
  · exact same ▸ kept
  · rw [kept] at unsettled
    cases unsettled

end Becomes

namespace Pool

/-! ## What the single operations do -/

@[simp]
theorem loaders_setStage (pool : Pool σ) (number : Nat) (stage : Stage σ) :
    (pool.setStage number stage).loaders = pool.loaders := rfl

@[simp]
theorem loaders_openCall (pool : Pool σ) (id : LoaderId) :
    (pool.openCall id).loaders = pool.loaders := rfl

@[simp]
theorem calls_settle (pool : Pool σ) (id : LoaderId) (outcome : Outcome σ) :
    (pool.settle id outcome).calls = pool.calls := rfl

theorem loaders_settle_self (pool : Pool σ) (id : LoaderId) (outcome : Outcome σ) :
    (pool.settle id outcome).loaders id = { pool.loaders id with cell := some outcome } :=
  if_pos rfl

theorem loaders_settle_of_ne (pool : Pool σ) {id other : LoaderId} (outcome : Outcome σ)
    (different : other ≠ id) : (pool.settle id outcome).loaders other = pool.loaders other :=
  if_neg different

@[simp]
theorem loaders_drop (pool : Pool σ) (number : Nat) : (pool.drop number).loaders = pool.loaders := by
  unfold drop
  split <;> rfl

theorem call_setStage (pool : Pool σ) (number other : Nat) (stage : Stage σ) :
    (pool.setStage number stage).calls[other]? =
      pool.calls[other]?.map fun call => if number = other then { call with stage } else call := by
  simp only [setStage, List.getElem?_modify]
  rfl

theorem call_setStage_of_ne (pool : Pool σ) {number other : Nat} (different : other ≠ number)
    (stage : Stage σ) : (pool.setStage number stage).calls[other]? = pool.calls[other]? := by
  rw [call_setStage]
  simp only [if_neg (Ne.symm different), Option.map_id']

theorem call_setStage_self {pool : Pool σ} {number : Nat} {id : LoaderId} {old : Stage σ}
    (present : pool.calls[number]? = some ⟨id, old⟩) (stage : Stage σ) :
    (pool.setStage number stage).calls[number]? = some ⟨id, stage⟩ := by
  rw [call_setStage, present]
  simp only [Option.map_some, if_pos]

/-- A call after the stage of some call was changed is that call at its new stage or another call as it
was. -/
theorem call_setStage_cases {pool : Pool σ} {number other : Nat} {stage : Stage σ} {call : Call σ}
    (found : (pool.setStage number stage).calls[other]? = some call) :
    (other = number ∧ call.stage = stage ∧ ∃ old, pool.calls[number]? = some ⟨call.loader, old⟩) ∨
      (other ≠ number ∧ pool.calls[other]? = some call) := by
  rw [call_setStage, Option.map_eq_some_iff] at found
  rcases found with ⟨before, present, changed⟩
  by_cases same : number = other
  · rw [if_pos same] at changed
    subst same changed
    exact Or.inl ⟨rfl, rfl, before.stage, present⟩
  · rw [if_neg same] at changed
    subst changed
    exact Or.inr ⟨Ne.symm same, present⟩

theorem call_openCall_cases {pool : Pool σ} {id : LoaderId} {number : Nat} {call : Call σ}
    (found : (pool.openCall id).calls[number]? = some call) :
    call = ⟨id, .queued⟩ ∨ pool.calls[number]? = some call := by
  by_cases earlier : number < pool.calls.length
  · rw [openCall, List.getElem?_append_left earlier] at found
    exact Or.inr found
  · rw [openCall, List.getElem?_append_right (Nat.le_of_not_lt earlier)] at found
    exact Or.inl (List.mem_singleton.mp (List.mem_of_getElem? found))

theorem call_openCall_self (pool : Pool σ) (id : LoaderId) :
    (pool.openCall id).calls[pool.calls.length]? = some ⟨id, .queued⟩ := by
  simp [openCall]

theorem isBusy_eq_false_iff (pool : Pool σ) (id : LoaderId) :
    pool.isBusy id = false ↔
      ∀ (number : Nat) (attempt : Attempt σ), pool.calls[number]? ≠ some ⟨id, .running attempt⟩ := by
  unfold isBusy
  rw [List.any_eq_false]
  constructor
  · intro quiet number attempt found
    exact quiet _ (List.mem_of_getElem? found) (by simp [Stage.isRunning])
  · intro quiet call member busy
    rcases List.getElem?_of_mem member with ⟨number, found⟩
    rcases call with ⟨loader, stage⟩
    simp only [Bool.and_eq_true, decide_eq_true_eq] at busy
    rcases busy with ⟨same, running⟩
    cases stage with
    | running attempt => exact quiet number attempt (same ▸ found)
    | queued => cases running
    | finished outcome => cases running
    | dropped => cases running

/-! ## What a poll can do -/

/-- A poll of the call with this number carries an attempt on this loader on, or begins one. -/
inductive Drives (pool : Pool σ) (number : Nat) (id : LoaderId) : Run σ (Progress σ) → Prop
  | begins (queued : pool.calls[number]? = some ⟨id, .queued⟩)
      (unsettled : (pool.loaders id).cell = none) (idle : pool.isBusy id = false) :
      Drives pool number id ((pool.loaders id).search.begin (pool.loaders id).steps)
  | continues {attempt : Attempt σ} (running : pool.calls[number]? = some ⟨id, .running attempt⟩) :
      Drives pool number id ((pool.loaders id).search.poll attempt)

theorem poll_of_drives {pool : Pool σ} {number : Nat} {id : LoaderId} {run : Run σ (Progress σ)}
    (drives : pool.Drives number id run) :
    pool.poll number = (do
      let progress ← run
      return pool.advance number id progress) := by
  cases drives with
  | begins queued unsettled idle => simp [poll, queued, unsettled, idle]
  | continues running => simp [poll, running]

theorem poll_of_drives_apply {pool : Pool σ} {number : Nat} {id : LoaderId}
    {run : Run σ (Progress σ)} (drives : pool.Drives number id run) (world : World σ) :
    pool.poll number world =
      ⟨pool.advance number id (run world).value, (run world).world, (run world).events⟩ := by
  rw [poll_of_drives drives, Run.bind_apply, Run.pure_apply, List.append_nil]

theorem poll_of_settled {pool : Pool σ} {number : Nat} {id : LoaderId} {outcome : Outcome σ}
    (queued : pool.calls[number]? = some ⟨id, .queued⟩)
    (settled : (pool.loaders id).cell = some outcome) (world : World σ) :
    pool.poll number world = ⟨pool.setStage number (.finished outcome), world, []⟩ := by
  have unfolded : pool.poll number = pure (pool.setStage number (.finished outcome)) := by
    simp [poll, queued, settled]
  rw [unfolded, Run.pure_apply]

/-- Everything that a poll can do. -/
theorem poll_cases (pool : Pool σ) (number : Nat) (world : World σ) :
    pool.poll number world = ⟨pool, world, []⟩ ∨
      (∃ id outcome, pool.calls[number]? = some ⟨id, .queued⟩ ∧
        (pool.loaders id).cell = some outcome ∧
        pool.poll number world = ⟨pool.setStage number (.finished outcome), world, []⟩) ∨
      ∃ id run, pool.Drives number id run ∧
        pool.poll number world =
          ⟨pool.advance number id (run world).value, (run world).world, (run world).events⟩ := by
  have idle (unchanged : pool.poll number = pure pool) :
      pool.poll number world = ⟨pool, world, []⟩ := by rw [unchanged, Run.pure_apply]
  cases found : pool.calls[number]? with
  | none => exact Or.inl (idle (by simp [poll, found]))
  | some call =>
    rcases call with ⟨id, stage⟩
    cases stage with
    | finished outcome => exact Or.inl (idle (by simp [poll, found]))
    | dropped => exact Or.inl (idle (by simp [poll, found]))
    | running attempt =>
      have drives : pool.Drives number id _ := .continues found
      exact Or.inr (Or.inr ⟨id, _, drives, poll_of_drives_apply drives world⟩)
    | queued =>
      cases kept : (pool.loaders id).cell with
      | some outcome =>
        exact Or.inr (Or.inl ⟨id, outcome, rfl, kept, poll_of_settled found kept world⟩)
      | none =>
        cases busy : pool.isBusy id with
        | true => exact Or.inl (idle (by simp [poll, found, kept, busy]))
        | false =>
          have drives : pool.Drives number id _ := .begins found kept busy
          exact Or.inr (Or.inr ⟨id, _, drives, poll_of_drives_apply drives world⟩)

/-! ## The invariant -/

/-- What is true of a pool at every moment. -/
structure Sound (pool : Pool σ) : Prop where
  /-- Of the calls of one loader, at most one carries out an attempt. -/
  alone : ∀ {first second : Nat} {id : LoaderId} {firstAttempt secondAttempt : Attempt σ},
    pool.calls[first]? = some ⟨id, .running firstAttempt⟩ →
    pool.calls[second]? = some ⟨id, .running secondAttempt⟩ → first = second
  /-- There are no attempts on a settled loader. -/
  unsettled : ∀ {number : Nat} {id : LoaderId} {attempt : Attempt σ},
    pool.calls[number]? = some ⟨id, .running attempt⟩ → (pool.loaders id).cell = none
  /-- What a call has returned is what its loader keeps. -/
  kept : ∀ {number : Nat} {id : LoaderId} {outcome : Outcome σ},
    pool.calls[number]? = some ⟨id, .finished outcome⟩ → (pool.loaders id).cell = some outcome

/-- Nothing has been called yet. -/
theorem sound_new (loaders : Loaders σ) : Sound ({ loaders } : Pool σ) where
  alone := fun found => nomatch found
  unsettled := fun found => nomatch found
  kept := fun found => nomatch found

namespace Drives

variable {pool : Pool σ} {number : Nat} {id : LoaderId} {run : Run σ (Progress σ)}

theorem call_eq (drives : pool.Drives number id run) :
    ∃ stage, pool.calls[number]? = some ⟨id, stage⟩ := by
  cases drives with
  | begins queued => exact ⟨_, queued⟩
  | continues running => exact ⟨_, running⟩

theorem unsettled (drives : pool.Drives number id run) (sound : pool.Sound) :
    (pool.loaders id).cell = none := by
  cases drives with
  | begins _ unsettled => exact unsettled
  | continues running => exact sound.unsettled running

/-- Nobody else carries out an attempt on the same loader. -/
theorem only (drives : pool.Drives number id run) (sound : pool.Sound) {other : Nat}
    {attempt : Attempt σ} (running : pool.calls[other]? = some ⟨id, .running attempt⟩) :
    other = number := by
  cases drives with
  | begins _ _ idle => exact absurd running ((pool.isBusy_eq_false_iff id).mp idle other attempt)
  | continues own => exact sound.alone running own

end Drives

namespace Sound

variable {pool : Pool σ}

theorem openCall (sound : pool.Sound) (id : LoaderId) : (pool.openCall id).Sound where
  alone := by
    intro first second other firstAttempt secondAttempt foundFirst foundSecond
    rcases call_openCall_cases foundFirst with impossible | earlierFirst
    · cases impossible
    · rcases call_openCall_cases foundSecond with impossible | earlierSecond
      · cases impossible
      · exact sound.alone earlierFirst earlierSecond
  unsettled := by
    intro number other attempt found
    rcases call_openCall_cases found with impossible | earlier
    · cases impossible
    · exact sound.unsettled earlier
  kept := by
    intro number other outcome found
    rcases call_openCall_cases found with impossible | earlier
    · cases impossible
    · exact sound.kept earlier

/-- A call may leave its attempt, or be handed out the kept outcome, at any time. -/
theorem setStage (sound : pool.Sound) {number : Nat} {id : LoaderId} {old stage : Stage σ}
    (present : pool.calls[number]? = some ⟨id, old⟩)
    (allowed : stage = .dropped ∨ ∃ outcome, stage = .finished outcome ∧
      (pool.loaders id).cell = some outcome) : (pool.setStage number stage).Sound where
  alone := by
    intro first second other firstAttempt secondAttempt foundFirst foundSecond
    rcases call_setStage_cases foundFirst with ⟨_, running, _⟩ | ⟨_, earlierFirst⟩
    · rcases allowed with rfl | ⟨outcome, rfl, _⟩ <;> cases running
    · rcases call_setStage_cases foundSecond with ⟨_, running, _⟩ | ⟨_, earlierSecond⟩
      · rcases allowed with rfl | ⟨outcome, rfl, _⟩ <;> cases running
      · exact sound.alone earlierFirst earlierSecond
  unsettled := by
    intro other otherId attempt found
    rcases call_setStage_cases found with ⟨_, running, _⟩ | ⟨_, earlier⟩
    · rcases allowed with rfl | ⟨outcome, rfl, _⟩ <;> cases running
    · exact sound.unsettled earlier
  kept := by
    intro other otherId outcome found
    rcases call_setStage_cases found with ⟨_, finished, _, before⟩ | ⟨_, earlier⟩
    · rw [present] at before
      cases before
      rcases allowed with rfl | ⟨returned, rfl, kept⟩
      · cases finished
      · cases finished
        exact kept
    · exact sound.kept earlier

/-- An attempt that is not finished keeps the pool as it should be: its call is still the only one. -/
theorem advance_waiting (sound : pool.Sound) {number : Nat} {id : LoaderId}
    {run : Run σ (Progress σ)} (drives : pool.Drives number id run) (attempt : Attempt σ) :
    (pool.advance number id (.waiting attempt)).Sound where
  alone := by
    intro first second other firstAttempt secondAttempt foundFirst foundSecond
    rcases drives.call_eq with ⟨stage, present⟩
    rcases call_setStage_cases foundFirst with ⟨isFirst, _, _, ownFirst⟩ | ⟨notFirst, earlierFirst⟩ <;>
      rcases call_setStage_cases foundSecond with
        ⟨isSecond, _, _, ownSecond⟩ | ⟨notSecond, earlierSecond⟩
    · exact isFirst.trans isSecond.symm
    · rw [present] at ownFirst
      cases ownFirst
      exact absurd (drives.only sound earlierSecond) notSecond
    · rw [present] at ownSecond
      cases ownSecond
      exact absurd (drives.only sound earlierFirst) notFirst
    · exact sound.alone earlierFirst earlierSecond
  unsettled := by
    intro other otherId otherAttempt found
    rcases drives.call_eq with ⟨stage, present⟩
    rcases call_setStage_cases found with ⟨_, _, _, own⟩ | ⟨_, earlier⟩
    · rw [present] at own
      cases own
      exact drives.unsettled sound
    · exact sound.unsettled earlier
  kept := by
    intro other otherId outcome found
    rcases call_setStage_cases found with ⟨_, finished, _⟩ | ⟨_, earlier⟩
    · cases finished
    · exact sound.kept earlier

/-- An attempt that is finished fills the cell.  Nobody has read the empty cell as an outcome, and nobody
is left who would fill it again. -/
theorem advance_finished (sound : pool.Sound) {number : Nat} {id : LoaderId}
    {run : Run σ (Progress σ)} (drives : pool.Drives number id run) (outcome : Outcome σ) :
    (pool.advance number id (.finished outcome)).Sound where
  alone := by
    intro first second other firstAttempt secondAttempt foundFirst foundSecond
    rcases call_setStage_cases foundFirst with ⟨_, impossible, _⟩ | ⟨_, earlierFirst⟩
    · cases impossible
    · rcases call_setStage_cases foundSecond with ⟨_, impossible, _⟩ | ⟨_, earlierSecond⟩
      · cases impossible
      · exact sound.alone earlierFirst earlierSecond
  unsettled := by
    intro other otherId attempt found
    rcases call_setStage_cases found with ⟨_, impossible, _⟩ | ⟨notOwn, earlier⟩
    · cases impossible
    · have different : otherId ≠ id := by
        intro same
        subst same
        exact notOwn (drives.only sound earlier)
      exact (congrArg Loader.cell (pool.loaders_settle_of_ne outcome different)).trans
        (sound.unsettled earlier)
  kept := by
    intro other otherId returned found
    rcases drives.call_eq with ⟨stage, present⟩
    rcases call_setStage_cases found with ⟨_, finished, _, own⟩ | ⟨_, earlier⟩
    · rw [calls_settle, present] at own
      cases own
      cases finished
      exact congrArg Loader.cell (pool.loaders_settle_self otherId outcome)
    · -- A call that returned earlier on this loader would have left it settled.
      have before := sound.kept earlier
      have different : otherId ≠ id := by
        intro same
        subst same
        rw [drives.unsettled sound] at before
        cases before
      exact (congrArg Loader.cell (pool.loaders_settle_of_ne outcome different)).trans before

theorem poll (sound : pool.Sound) (number : Nat) (world : World σ) :
    (pool.poll number world).value.Sound := by
  rcases pool.poll_cases number world with unchanged | ⟨id, outcome, queued, kept, finished⟩ |
    ⟨id, run, drives, driven⟩
  · rw [unchanged]
    exact sound
  · rw [finished]
    exact sound.setStage queued (Or.inr ⟨outcome, rfl, kept⟩)
  · rw [driven]
    cases (run world).value with
    | waiting attempt => exact sound.advance_waiting drives attempt
    | finished outcome => exact sound.advance_finished drives outcome

theorem drop (sound : pool.Sound) (number : Nat) : (pool.drop number).Sound := by
  unfold Pool.drop
  split
  · exact sound.setStage ‹_› (Or.inl rfl)
  · exact sound.setStage ‹_› (Or.inl rfl)
  · exact sound

end Sound

/-! ## What a poll does to a loader -/

/-- A poll leaves a loader as it is, or it finishes the attempt of a call of that very loader. -/
theorem loader_poll (pool : Pool σ) (number : Nat) (world : World σ) (id : LoaderId) :
    (pool.poll number world).value.loaders id = pool.loaders id ∨
      ∃ run outcome, pool.Drives number id run ∧ (run world).value = .finished outcome ∧
        (pool.poll number world).value.loaders id =
          { pool.loaders id with cell := some outcome } := by
  rcases pool.poll_cases number world with unchanged | ⟨other, outcome, _, _, finished⟩ |
    ⟨other, run, drives, driven⟩
  · exact Or.inl (by rw [unchanged])
  · exact Or.inl (by rw [finished, loaders_setStage])
  · rw [driven]
    cases progress : (run world).value with
    | waiting attempt => exact Or.inl rfl
    | finished outcome =>
      by_cases same : id = other
      · subst same
        exact Or.inr ⟨run, outcome, drives, progress, pool.loaders_settle_self id outcome⟩
      · exact Or.inl (pool.loaders_settle_of_ne outcome same)

/-! ## A call stays a call of its loader -/

theorem callLoaders_setStage (pool : Pool σ) (number : Nat) (stage : Stage σ) :
    (pool.setStage number stage).calls.map Call.loader = pool.calls.map Call.loader := by
  refine List.ext_getElem? fun other => ?_
  rw [List.getElem?_map, List.getElem?_map, call_setStage, Option.map_map]
  congr 1
  funext call
  by_cases same : number = other <;> simp [same]

theorem callLoaders_drop (pool : Pool σ) (number : Nat) :
    (pool.drop number).calls.map Call.loader = pool.calls.map Call.loader := by
  unfold drop
  split
  · exact pool.callLoaders_setStage number .dropped
  · exact pool.callLoaders_setStage number .dropped
  · rfl

theorem callLoaders_poll (pool : Pool σ) (number : Nat) (world : World σ) :
    (pool.poll number world).value.calls.map Call.loader = pool.calls.map Call.loader := by
  rcases pool.poll_cases number world with unchanged | ⟨_, outcome, _, _, finished⟩ |
    ⟨id, run, _, driven⟩
  · rw [unchanged]
  · rw [finished]
    exact pool.callLoaders_setStage number _
  · rw [driven]
    cases (run world).value with
    | waiting attempt => exact pool.callLoaders_setStage number _
    | finished outcome => exact (pool.settle id outcome).callLoaders_setStage number _

theorem outcome?_eq_some {pool : Pool σ} {number : Nat} {outcome : Outcome σ}
    (returned : pool.outcome? number = some outcome) :
    ∃ id, pool.calls[number]? = some ⟨id, .finished outcome⟩ := by
  rcases Option.bind_eq_some_iff.mp returned with ⟨⟨id, stage⟩, found, finished⟩
  cases stage with
  | finished kept =>
    cases finished
    exact ⟨id, found⟩
  | queued => cases finished
  | running attempt => cases finished
  | dropped => cases finished

end Pool
end Loader
end NodeKeys
