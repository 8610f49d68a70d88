import NodeKeys.Proofs.Effects
import NodeKeys.Proofs.Loader.Pool

/-!
# What stays true while requests are under way

A move of the requests changes their pool only by opening, polling or dropping one call, so the pool stays
sound and each loader is settled at most once.  Beyond that, `Requests.Sound` accounts for the phases of all
requests: one that has begun to try factories, or has returned, was refused or goes on from the outcome that its
loader keeps.  What its factories can still come to is limited by what was open from the start.
-/

namespace NodeKeys

open Loader

variable {σ : Type}

/-! ## What may become of a request -/

/-- The phases that a request with this order can be in after its loader gave this outcome, and before it is
dropped. -/
inductive Phase.Follows : Option Order → Outcome σ → Phase σ → Prop
  | loaded {outcome : Outcome σ} : Follows none outcome (.returned (.loaded outcome))
  | unloaded {order : Order} {error : KeygenError} {reply : Reply σ} (world : World σ)
      (replies : reply = (order.reply (.error error) world).value) :
      Follows (some order) (.error error) (.returned reply)
  | trying {order : Order} {handle : Handle σ} {attempt : CandidateChain.Attempt σ}
      (leads : order.search.MayLead (resolveCandidates handle.module) (.waiting attempt)) :
      Follows (some order) (.ok handle) (.trying order attempt)
  | tried {order : Order} {handle : Handle σ} {result : Except KeygenError Derivation} {reply : Reply σ}
      (leads : order.search.MayLead (resolveCandidates handle.module) (.finished result)) (world : World σ)
      (replies : reply = (order.reply result world).value) :
      Follows (some order) (.ok handle) (.returned reply)

theorem Order.follows_proceed {order : Order} {handle : Handle σ} {progress : CandidateChain.Progress σ}
    (leads : order.search.MayLead (resolveCandidates handle.module) progress) (world : World σ) :
    (order.proceed progress world).value.Follows (some order) (.ok handle) := by
  cases progress with
  | waiting attempt => exact .trying leads
  | finished result => exact .tried leads world rfl

theorem Order.follows_begin (order? : Option Order) (outcome : Outcome σ) (world : World σ) :
    (Order.begin order? outcome world).value.Follows order? outcome := by
  cases order? with
  | none => exact .loaded
  | some order =>
    cases outcome with
    | error error => exact .unloaded world rfl
    | ok handle => exact Order.follows_proceed (order.search.mayLead_begin _ world) _

theorem Phase.Follows.poll {order? : Option Order} {outcome : Outcome σ} {order : Order}
    {attempt : CandidateChain.Attempt σ} (follows : (Phase.trying order attempt).Follows order? outcome)
    (world : World σ) :
    ((order.search.poll attempt >>= order.proceed) world).value.Follows order? outcome := by
  cases follows with
  | trying leads => exact Order.follows_proceed (leads.poll world) _

namespace Requests

/-! ## What the single operations do -/

theorem pool_drop (requests : Requests σ) (number : Nat) :
    (requests.drop number).pool = requests.pool ∨
      (requests.drop number).pool = requests.pool.drop number := by
  unfold drop
  split
  · exact Or.inr rfl
  · exact Or.inr rfl
  · exact Or.inl rfl

theorem entry_setPhase (requests : Requests σ) (number other : Nat) (phase : Phase σ) :
    (requests.setPhase number phase).entries[other]? =
      requests.entries[other]?.map fun request =>
        if number = other then { request with phase } else request := by
  simp only [setPhase, List.getElem?_modify]
  rfl

theorem entry_setPhase_self {requests : Requests σ} {number : Nat} {purpose : Purpose} {old : Phase σ}
    (present : requests.entries[number]? = some ⟨purpose, old⟩) (phase : Phase σ) :
    (requests.setPhase number phase).entries[number]? = some ⟨purpose, phase⟩ := by
  rw [entry_setPhase, present]
  simp only [Option.map_some, if_pos]

/-- A request after the phase of some request was changed is that request in its new phase or another
request as it was. -/
theorem entry_setPhase_cases {requests : Requests σ} {number other : Nat} {phase : Phase σ}
    {request : Request σ} (found : (requests.setPhase number phase).entries[other]? = some request) :
    (other = number ∧ request.phase = phase ∧
        ∃ old, requests.entries[number]? = some ⟨request.purpose, old⟩) ∨
      (other ≠ number ∧ requests.entries[other]? = some request) := by
  rw [entry_setPhase, Option.map_eq_some_iff] at found
  rcases found with ⟨before, present, changed⟩
  by_cases same : number = other
  · rw [if_pos same] at changed
    subst same changed
    exact Or.inl ⟨rfl, rfl, before.phase, present⟩
  · rw [if_neg same] at changed
    subst changed
    exact Or.inr ⟨Ne.symm same, present⟩

/-! ## What a poll can do -/

/-- The ways in which a poll of a request can end. -/
inductive Polled (requests : Requests σ) (number : Nat) (world : World σ) :
    Ending σ (Requests σ) → Prop
  /-- There is no such request, or it is over. -/
  | idle : Polled requests number world ⟨requests, world, []⟩
  /-- The request is refused, and its call is given up. -/
  | refused {purpose : Purpose} {error : KeygenError}
      (pending : requests.entries[number]? = some ⟨purpose, .pending⟩)
      (refusal : purpose.order = .error error) :
      Polled requests number world
        ⟨{ requests with pool := requests.pool.drop number }.setPhase number
          (.returned (.generated (.error error))), world, []⟩
  /-- The request waits for its call. -/
  | waits {purpose : Purpose} {order? : Option Order}
      (pending : requests.entries[number]? = some ⟨purpose, .pending⟩)
      (accepted : purpose.order = .ok order?)
      (unreturned : (requests.pool.poll number world).value.outcome? number = none) :
      Polled requests number world
        ⟨{ requests with pool := (requests.pool.poll number world).value },
          (requests.pool.poll number world).world, (requests.pool.poll number world).events⟩
  /-- The call has returned, and the request goes on from its outcome. -/
  | loaded {purpose : Purpose} {order? : Option Order} {outcome : Outcome σ}
      (pending : requests.entries[number]? = some ⟨purpose, .pending⟩)
      (accepted : purpose.order = .ok order?)
      (returned : (requests.pool.poll number world).value.outcome? number = some outcome) :
      Polled requests number world
        ⟨{ requests with pool := (requests.pool.poll number world).value }.setPhase number
            (Order.begin order? outcome (requests.pool.poll number world).world).value,
          (Order.begin order? outcome (requests.pool.poll number world).world).world,
          (requests.pool.poll number world).events ++
            (Order.begin order? outcome (requests.pool.poll number world).world).events⟩
  /-- The request goes on with its factories. -/
  | tried {purpose : Purpose} {order : Order} {attempt : CandidateChain.Attempt σ}
      (trying : requests.entries[number]? = some ⟨purpose, .trying order attempt⟩) :
      Polled requests number world
        ⟨requests.setPhase number ((order.search.poll attempt >>= order.proceed) world).value,
          ((order.search.poll attempt >>= order.proceed) world).world,
          ((order.search.poll attempt >>= order.proceed) world).events⟩

theorem polled (requests : Requests σ) (number : Nat) (world : World σ) :
    Polled requests number world (requests.poll number world) := by
  cases found : requests.entries[number]? with
  | none =>
    simp only [poll, found]
    exact .idle
  | some request =>
    rcases request with ⟨purpose, phase⟩
    cases phase with
    | returned reply =>
      simp only [poll, found]
      exact .idle
    | dropped =>
      simp only [poll, found]
      exact .idle
    | pending =>
      cases ordered : purpose.order with
      | error error =>
        simp only [poll, found, ordered]
        exact .refused found ordered
      | ok order? =>
        simp only [poll, found, ordered, Run.bind_apply]
        cases returned : (requests.pool.poll number world).value.outcome? number with
        | none =>
          simp only [Run.pure_apply, List.append_nil]
          exact .waits found ordered returned
        | some outcome =>
          simp only [Run.bind_apply, Run.pure_apply, List.append_nil]
          exact .loaded found ordered returned
    | trying order attempt =>
      have polled : requests.poll number = (do
          let phase ← order.search.poll attempt >>= order.proceed
          return requests.setPhase number phase) := by
        simp only [poll, found, bind_assoc]
      rw [polled, Run.bind_apply, Run.pure_apply, List.append_nil]
      exact .tried found

/-! ## The invariant -/

section Pools

variable {kept : Pool σ → Prop} (opened : ∀ pool id, kept pool → kept (pool.openCall id))
  (polled : ∀ pool number world, kept pool → kept (pool.poll number world).value)
  (dropped : ∀ pool number, kept pool → kept (pool.drop number))
include opened polled dropped

/-- What opening, polling and dropping a call keep true of a pool, a move of the requests keeps true. -/
theorem pool_move {requests : Requests σ} (holds : kept requests.pool) (move : Move σ) (world : World σ) :
    kept (requests.move move world).value.pool := by
  cases move with
  | make id purpose => exact opened _ id holds
  | outside change => exact holds
  | drop number =>
    change kept (requests.drop number).pool
    rcases requests.pool_drop number with same | gone
    · rw [same]
      exact holds
    · rw [gone]
      exact dropped _ number holds
  | poll number =>
    have cases := requests.polled number world
    change kept (requests.poll number world).value.pool
    generalize requests.poll number world = ending at cases ⊢
    cases cases with
    | idle => exact holds
    | refused => exact dropped _ number holds
    | waits => exact polled _ number world holds
    | loaded => exact polled _ number world holds
    | tried => exact holds

theorem pool_moves {requests : Requests σ} (holds : kept requests.pool) (moves : List (Move σ))
    (world : World σ) : kept (requests.moves moves world).value.pool := by
  induction moves generalizing requests world with
  | nil => exact holds
  | cons first rest inductionHypothesis =>
    exact inductionHypothesis (pool_move opened polled dropped holds first world)
      (requests.move first world).world

end Pools

/-- A poll of a request leaves a loader as it is, or it finishes the attempt of a call of that very
loader. -/
theorem loader_poll (requests : Requests σ) (number : Nat) (world : World σ) (id : LoaderId) :
    (requests.poll number world).value.pool.loaders id = requests.pool.loaders id ∨
      ∃ run outcome, requests.pool.Drives number id run ∧ (run world).value = .finished outcome ∧
        (requests.poll number world).value.pool.loaders id =
          { requests.pool.loaders id with cell := some outcome } := by
  have driven := requests.pool.loader_poll number world id
  have polled := requests.polled number world
  generalize requests.poll number world = ending at polled ⊢
  cases polled with
  | idle => exact Or.inl rfl
  | refused => exact Or.inl (congrFun (requests.pool.loaders_drop number) id)
  | waits => exact driven
  | loaded => exact driven
  | tried => exact Or.inl rfl

/-- What a move does to a loader. -/
theorem loader_move (requests : Requests σ) (move : Move σ) (world : World σ) (id : LoaderId) :
    (requests.move move world).value.pool.loaders id = requests.pool.loaders id ∨
      ∃ number run outcome, move = .poll number ∧ requests.pool.Drives number id run ∧
        (run world).value = .finished outcome ∧
        (requests.move move world).value.pool.loaders id =
          { requests.pool.loaders id with cell := some outcome } := by
  cases move with
  | make other purpose => exact Or.inl rfl
  | outside change => exact Or.inl rfl
  | drop number =>
    refine Or.inl ?_
    change (requests.drop number).pool.loaders id = _
    rcases requests.pool_drop number with same | dropped
    · rw [same]
    · rw [dropped, Pool.loaders_drop]
  | poll number =>
    rcases requests.loader_poll number world id with same | ⟨run, outcome, drives, finished, filled⟩
    · exact Or.inl same
    · exact Or.inr ⟨number, run, outcome, rfl, drives, finished, filled⟩

theorem becomes_move {requests : Requests σ} (sound : requests.pool.Sound) (move : Move σ)
    (world : World σ) (id : LoaderId) :
    Becomes (requests.pool.loaders id) ((requests.move move world).value.pool.loaders id) := by
  rcases requests.loader_move move world id with same | ⟨_, run, outcome, _, drives, _, filled⟩
  · exact Or.inl same
  · exact Or.inr ⟨drives.unsettled sound, outcome, filled⟩

/-- Calls stay calls of their loaders, and only a new request makes one. -/
theorem callLoaders_move (requests : Requests σ) (move : Move σ) (world : World σ) :
    (requests.move move world).value.pool.calls.map Call.loader =
      requests.pool.calls.map Call.loader ++
        match move with
        | .make id _ => [id]
        | _ => [] := by
  cases move with
  | make id purpose => exact List.map_append
  | outside change => exact (List.append_nil _).symm
  | drop number =>
    rw [List.append_nil]
    change (requests.drop number).pool.calls.map Call.loader = _
    rcases requests.pool_drop number with same | dropped
    · rw [same]
    · rw [dropped]
      exact requests.pool.callLoaders_drop number
  | poll number =>
    rw [List.append_nil]
    have kept := requests.pool.callLoaders_poll number world
    have polled := requests.polled number world
    change (requests.poll number world).value.pool.calls.map Call.loader = _
    generalize requests.poll number world = ending at polled ⊢
    cases polled with
    | idle => rfl
    | refused => exact requests.pool.callLoaders_drop number
    | waits => exact kept
    | loaded => exact kept
    | tried => rfl

theorem purposes_setPhase (requests : Requests σ) (number : Nat) (phase : Phase σ) :
    (requests.setPhase number phase).entries.map Request.purpose =
      requests.entries.map Request.purpose := by
  refine List.ext_getElem? fun other => ?_
  rw [List.getElem?_map, List.getElem?_map, entry_setPhase, Option.map_map]
  congr 1
  funext request
  by_cases same : number = other <;> simp [same]

/-- Requests keep their purposes, and only a new request adds one. -/
theorem purposes_move (requests : Requests σ) (move : Move σ) (world : World σ) :
    (requests.move move world).value.entries.map Request.purpose =
      requests.entries.map Request.purpose ++
        match move with
        | .make _ purpose => [purpose]
        | _ => [] := by
  cases move with
  | make id purpose => exact List.map_append
  | outside change => exact (List.append_nil _).symm
  | drop number =>
    rw [List.append_nil]
    change (requests.drop number).entries.map Request.purpose = _
    unfold drop
    split
    · exact purposes_setPhase _ number .dropped
    · exact purposes_setPhase _ number .dropped
    · rfl
  | poll number =>
    rw [List.append_nil]
    have polled := requests.polled number world
    change (requests.poll number world).value.entries.map Request.purpose = _
    generalize requests.poll number world = ending at polled ⊢
    cases polled with
    | idle => rfl
    | refused => exact purposes_setPhase _ number _
    | waits => rfl
    | loaded => exact purposes_setPhase _ number _
    | tried => exact purposes_setPhase _ number _

/-- A request and its call have the same number. -/
def Aligned (requests : Requests σ) : Prop :=
  requests.entries.length = requests.pool.calls.length

theorem aligned_start (loaders : Loaders σ) : (start loaders).Aligned := rfl

theorem Aligned.move {requests : Requests σ} (aligned : requests.Aligned) (move : Move σ)
    (world : World σ) : (requests.move move world).value.Aligned := by
  have purposes := congrArg List.length (requests.purposes_move move world)
  have loaders := congrArg List.length (requests.callLoaders_move move world)
  simp only [List.length_map, List.length_append] at purposes loaders
  rw [Aligned, purposes, loaders, aligned]
  cases move <;> rfl

theorem Aligned.moves {requests : Requests σ} (aligned : requests.Aligned) (moves : List (Move σ))
    (world : World σ) : (requests.moves moves world).value.Aligned := by
  induction moves generalizing requests world with
  | nil => exact aligned
  | cons first rest inductionHypothesis =>
    exact inductionHypothesis (aligned.move first world) (requests.move first world).world

theorem loaderOf?_move {requests : Requests σ} {number : Nat} {id : LoaderId}
    (made : requests.loaderOf? number = some id) (move : Move σ) (world : World σ) :
    (requests.move move world).value.loaderOf? number = some id := by
  rw [loaderOf?, ← List.getElem?_map] at made ⊢
  have earlier := (List.getElem?_eq_some_iff.mp made).1
  rw [callLoaders_move, List.getElem?_append_left earlier]
  exact made

/-! ## Where phases come from -/

/-- Why a request of this number and purpose may be in this phase. -/
inductive Accounted (requests : Requests σ) (number : Nat) (purpose : Purpose) : Phase σ → Prop
  | pending : Accounted requests number purpose .pending
  | dropped : Accounted requests number purpose .dropped
  | refused {error : KeygenError} (refusal : purpose.order = .error error) :
      Accounted requests number purpose (.returned (.generated (.error error)))
  /-- It goes on from the outcome that its loader keeps. -/
  | follows {order? : Option Order} {id : LoaderId} {outcome : Outcome σ} {phase : Phase σ}
      (accepted : purpose.order = .ok order?) (made : requests.loaderOf? number = some id)
      (kept : (requests.pool.loaders id).cell = some outcome) (follows : phase.Follows order? outcome) :
      Accounted requests number purpose phase

/-- What is true of requests at every moment. -/
structure Sound (requests : Requests σ) : Prop where
  pool : requests.pool.Sound
  accounted : ∀ {number : Nat} {request : Request σ}, requests.entries[number]? = some request →
    requests.Accounted number request.purpose request.phase

/-- A phase stays accounted for, because calls stay on their loaders and a kept outcome stays. -/
theorem Accounted.move {requests : Requests σ} {number : Nat} {purpose : Purpose} {phase : Phase σ}
    (accounted : requests.Accounted number purpose phase) (sound : requests.pool.Sound) (move : Move σ)
    (world : World σ) : (requests.move move world).value.Accounted number purpose phase := by
  cases accounted with
  | pending => exact .pending
  | dropped => exact .dropped
  | refused refusal => exact .refused refusal
  | @follows _ id _ _ accepted made kept follows =>
    exact .follows accepted (loaderOf?_move made move world) ((becomes_move sound move world id).keeps kept)
      follows

/-- A request that was not refused has returned what follows from the outcome that its loader keeps. -/
theorem Accounted.follows_of_returned {requests : Requests σ} {number : Nat} {purpose : Purpose} {reply : Reply σ}
    (accounted : requests.Accounted number purpose (.returned reply)) {order? : Option Order}
    (accepted : purpose.order = .ok order?) {id : LoaderId} (made : requests.loaderOf? number = some id) :
    ∃ outcome, (requests.pool.loaders id).cell = some outcome ∧
      (Phase.returned reply).Follows order? outcome := by
  cases accounted with
  | refused refusal => cases accepted.symm.trans refusal
  | @follows _ _ outcome _ same onSame kept follows =>
    cases accepted.symm.trans same
    cases made.symm.trans onSame
    exact ⟨outcome, kept, follows⟩

namespace Sound

variable {requests : Requests σ}

/-- A poll accounts for the phase in which it leaves the request. -/
theorem accounted_poll (sound : requests.Sound) (polled : Nat) (world : World σ) {number : Nat}
    {request : Request σ} (found : (requests.poll polled world).value.entries[number]? = some request) :
    (requests.poll polled world).value.Accounted number request.purpose request.phase := by
  have carried {number : Nat} {purpose : Purpose} {phase : Phase σ}
      (before : requests.Accounted number purpose phase) :
      (requests.poll polled world).value.Accounted number purpose phase :=
    before.move sound.pool (.poll polled) world
  have cases := requests.polled polled world
  generalize requests.poll polled world = ending at carried cases found ⊢
  cases cases with
  | idle => exact sound.accounted found
  | waits => exact carried (sound.accounted found)
  | refused pending refusal =>
    rcases entry_setPhase_cases found with ⟨rfl, phase, _, own⟩ | ⟨_, earlier⟩
    · cases pending.symm.trans own
      rw [phase]
      exact .refused refusal
    · exact carried (sound.accounted earlier)
  | @loaded purpose order? outcome pending accepted returned =>
    rcases entry_setPhase_cases found with ⟨rfl, phase, _, own⟩ | ⟨_, earlier⟩
    · -- The call has just returned, so its loader is settled in the pool after the poll.
      cases pending.symm.trans own
      rcases Pool.outcome?_eq_some returned with ⟨id, finished⟩
      rw [phase]
      exact .follows accepted (congrArg (Option.map Call.loader) finished)
        ((sound.pool.poll number world).kept finished) (Order.follows_begin order? outcome _)
    · exact carried (sound.accounted earlier)
  | tried trying =>
    rcases entry_setPhase_cases found with ⟨rfl, phase, _, own⟩ | ⟨_, earlier⟩
    · cases trying.symm.trans own
      rw [phase]
      cases sound.accounted trying with
      | follows accepted made kept follows => exact carried (.follows accepted made kept (follows.poll world))
    · exact carried (sound.accounted earlier)

theorem accounted_drop (sound : requests.Sound) (gone : Nat) (world : World σ) {number : Nat}
    {request : Request σ} (found : (requests.drop gone).entries[number]? = some request) :
    (requests.drop gone).Accounted number request.purpose request.phase := by
  have carried {number : Nat} {purpose : Purpose} {phase : Phase σ}
      (before : requests.Accounted number purpose phase) :
      (requests.drop gone).Accounted number purpose phase :=
    before.move sound.pool (.drop gone) world
  have dropping (dropped : requests.drop gone =
      { requests with pool := requests.pool.drop gone }.setPhase gone .dropped) :
      (requests.drop gone).Accounted number request.purpose request.phase := by
    rw [dropped] at found
    rcases entry_setPhase_cases found with ⟨_, phase, _, _⟩ | ⟨_, earlier⟩
    · rw [phase]
      exact .dropped
    · exact carried (sound.accounted earlier)
  cases present : requests.entries[gone]? with
  | none =>
    rw [drop, present] at found
    exact carried (sound.accounted found)
  | some request =>
    rcases request with ⟨purpose, phase⟩
    cases phase with
    | pending => exact dropping (by rw [drop, present])
    | trying order attempt => exact dropping (by rw [drop, present])
    | returned reply =>
      rw [drop, present] at found
      exact carried (sound.accounted found)
    | dropped =>
      rw [drop, present] at found
      exact carried (sound.accounted found)

/-- One move keeps the invariant. -/
theorem move (sound : requests.Sound) (move : Move σ) (world : World σ) :
    (requests.move move world).value.Sound where
  pool := pool_move (fun _ id sound => sound.openCall id) (fun _ number world sound => sound.poll number world)
    (fun _ number sound => sound.drop number) sound.pool move world
  accounted := by
    intro number request found
    cases move with
    | poll polled => exact sound.accounted_poll polled world found
    | drop gone => exact sound.accounted_drop gone world found
    | outside change => exact (sound.accounted found).move sound.pool (.outside change) world
    | make id purpose =>
      change (requests.entries ++ [_])[number]? = _ at found
      by_cases earlier : number < requests.entries.length
      · rw [List.getElem?_append_left earlier] at found
        exact (sound.accounted found).move sound.pool (.make id purpose) world
      · rw [List.getElem?_append_right (Nat.le_of_not_lt earlier)] at found
        cases List.mem_singleton.mp (List.mem_of_getElem? found)
        exact .pending

theorem moves (sound : requests.Sound) (moves : List (Move σ)) (world : World σ) :
    (requests.moves moves world).value.Sound := by
  induction moves generalizing requests world with
  | nil => exact sound
  | cons first rest inductionHypothesis =>
    exact inductionHypothesis (sound.move first world) (requests.move first world).world

end Sound

/-- Nothing has been requested yet. -/
theorem sound_start (loaders : Loaders σ) : (start loaders).Sound where
  pool := Pool.sound_new loaders
  accounted := fun found => nomatch found

theorem becomes_moves {requests : Requests σ} (sound : requests.Sound) (moves : List (Move σ))
    (world : World σ) (id : LoaderId) :
    Becomes (requests.pool.loaders id) ((requests.moves moves world).value.pool.loaders id) := by
  induction moves generalizing requests world with
  | nil => exact Becomes.refl _
  | cons first rest inductionHypothesis =>
    exact (becomes_move sound.pool first world id).trans
      (inductionHypothesis (sound.move first world) (requests.move first world).world)

/-! ## Settled loaders import nothing -/

/-- A call of a settled loader is polled without any event. -/
theorem events_poll_of_settled {pool : Pool σ} (sound : pool.Sound) {number : Nat} {id : LoaderId}
    {outcome : Outcome σ} (called : pool.calls[number]?.map Call.loader = some id)
    (settled : (pool.loaders id).cell = some outcome) (world : World σ) :
    (pool.poll number world).events = [] := by
  rcases pool.poll_cases number world with unchanged | ⟨_, _, _, _, finished⟩ |
    ⟨other, run, drives, _⟩
  · rw [unchanged]
  · rw [finished]
  · rcases drives.call_eq with ⟨stage, found⟩
    rw [found] at called
    cases called
    rw [drives.unsettled sound] at settled
    cases settled

theorem entry_make (requests : Requests σ) (id : LoaderId) (purpose : Purpose) :
    (requests.make id purpose).entries[requests.entries.length]? = some ⟨purpose, .pending⟩ := by
  simp [make]

theorem call_make {requests : Requests σ} (aligned : requests.Aligned) (id : LoaderId)
    (purpose : Purpose) :
    (requests.make id purpose).pool.calls[requests.entries.length]? = some ⟨id, .queued⟩ := by
  rw [aligned]
  exact requests.pool.call_openCall_self id

/-- A request on a settled loader goes on from the kept outcome when it is first polled. -/
theorem poll_make_of_settled {requests : Requests σ} (aligned : requests.Aligned) {id : LoaderId}
    {outcome : Outcome σ} (settled : (requests.pool.loaders id).cell = some outcome) {purpose : Purpose}
    {order? : Option Order} (accepted : purpose.order = .ok order?) :
    (requests.make id purpose).poll requests.entries.length = (do
      let phase ← Order.begin order? outcome
      return { requests.make id purpose with
          pool := (requests.pool.openCall id).setStage requests.entries.length (.finished outcome)
        }.setPhase requests.entries.length phase) := by
  have pending := requests.entry_make id purpose
  have queued := call_make aligned id purpose
  have polled : (requests.make id purpose).pool.poll requests.entries.length =
      pure ((requests.make id purpose).pool.setStage requests.entries.length (.finished outcome)) :=
    funext fun world => Pool.poll_of_settled queued settled world
  have returned : ((requests.make id purpose).pool.setStage requests.entries.length
      (.finished outcome)).outcome? requests.entries.length = some outcome := by
    rw [Pool.outcome?, Pool.call_setStage_self queued]
    rfl
  simp only [poll, pending, accepted, polled, pure_bind, returned]
  rfl

/-- A move about a settled loader starts no import. -/
theorem imports_move_of_settled {requests : Requests σ} (sound : requests.Sound) {move : Move σ}
    {id : LoaderId} {outcome : Outcome σ} (about : requests.concerns? move = some id)
    (settled : (requests.pool.loaders id).cell = some outcome) (world : World σ) :
    Event.imports (requests.move move world).events = [] := by
  cases move with
  | make other purpose => rfl
  | drop number => rfl
  | outside change => rfl
  | poll number =>
    have silent := events_poll_of_settled sound.pool about settled world
    have polled := requests.polled number world
    change Event.imports (requests.poll number world).events = []
    generalize requests.poll number world = ending at polled ⊢
    cases polled with
    | idle => rfl
    | refused => rfl
    | waits => rw [silent]; rfl
    | loaded =>
      rw [silent, List.nil_append]
      exact Event.imports_eq_nil (Order.shows_begin _ _ _)
    | tried => exact Event.imports_eq_nil (Order.shows_poll _ _ _)

end Requests
end NodeKeys
