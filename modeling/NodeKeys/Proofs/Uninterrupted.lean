import NodeKeys.Proofs.Generation.Stages
import NodeKeys.Proofs.Loader.Alone
import NodeKeys.Proofs.Requests

/-!
# Requests that nobody interferes with

A request that is polled while nothing else happens does what loading, deriving or generating in one go does:
the same reply, the same effects in the same order, and the same loader at the end.  So what is proved about
requests under way is also about the operations in one go, and the other way round.

Its polls are those of its call until the call returns.  In that very poll the request begins to try factories, and
from then on its polls are those of the search among them.
-/

namespace NodeKeys

open Loader

variable {σ : Type}

/-! ## In one go -/

def Purpose.complete (purpose : Purpose) (loader : Loader σ) : Run σ (Reply σ × Loader σ) :=
  match purpose with
  | load => do
    let (outcome, loaded) ← loader.load
    return (.loaded outcome, loaded)
  | derive policy seed => do
    let (result, loaded) ← loader.derive policy seed
    return (.derived result, loaded)
  | generate policy text? entropy => do
    let (result, loaded) ← loader.generate policy text? entropy
    return (.generated result, loaded)

/-- Go on with the outcome of the loader, in one go. -/
def Order.conclude (order? : Option Order) (outcome : Outcome σ) : Run σ (Reply σ) :=
  match order? with
  | none => return .loaded outcome
  | some order =>
    match outcome with
    | .error error => order.reply (.error error)
    | .ok handle => do
      let result ← order.search.complete (resolveCandidates handle.module)
      order.reply result

theorem Purpose.complete_of_refused {purpose : Purpose} {error : KeygenError}
    (refusal : purpose.order = .error error) (loader : Loader σ) :
    purpose.complete loader = pure (.generated (.error error), loader) := by
  cases purpose with
  | load => cases refusal
  | derive policy seed => cases refusal
  | generate policy text? entropy =>
    cases readable : requestedSeed text? entropy with
    | ok requested =>
      rw [order, readable] at refusal
      cases refusal
    | error unreadable =>
      rw [order, readable] at refusal
      cases refusal
      rw [complete, generate_of_unreadable readable, pure_bind]

theorem Purpose.complete_of_accepted {purpose : Purpose} {order? : Option Order}
    (accepted : purpose.order = .ok order?) (loader : Loader σ) :
    purpose.complete loader = (do
      let loading ← loader.load
      let reply ← Order.conclude order? loading.1
      return (reply, loading.2)) := by
  cases purpose with
  | load =>
    cases accepted
    simp only [complete, Order.conclude, pure_bind]
  | derive policy seed =>
    cases accepted
    simp only [complete, Loader.derive, bind_assoc]
    refine congrArg (loader.load >>= ·) (funext fun loading => ?_)
    rcases loading with ⟨outcome, loaded⟩
    cases outcome with
    | error error => simp only [Order.conclude, Order.reply, pure_bind]
    | ok handle =>
      simp only [Order.conclude, Order.reply, bind_assoc, pure_bind]
      rfl
  | generate policy text? entropy =>
    cases readable : requestedSeed text? entropy with
    | error error =>
      rw [order, readable] at accepted
      cases accepted
    | ok requested =>
      rcases requested with ⟨seed, seedText⟩
      rw [order, readable] at accepted
      cases accepted
      simp only [complete, Loader.generate, readable, bind_assoc]
      refine congrArg (loader.load >>= ·) (funext fun loading => ?_)
      rcases loading with ⟨outcome, loaded⟩
      cases outcome with
      | error error => simp only [Order.conclude, Order.reply, pure_bind]
      | ok handle =>
        simp only [Order.conclude, bind_assoc, pure_bind, generateOn]
        refine congrArg ((CandidateChain.search policy seed).complete _ >>= ·) (funext fun derived => ?_)
        cases derived with
        | error error => simp only [Order.reply, pure_bind]
        | ok derivation => simp only [Order.reply, map_eq_pure_bind, bind_assoc, pure_bind]

/-- What comes of the outcome in one go is one of the things that may come of it. -/
theorem Order.follows_conclude (order? : Option Order) (outcome : Outcome σ) (world : World σ) :
    (Phase.returned (Order.conclude order? outcome world).value).Follows order? outcome := by
  cases order? with
  | none => exact .loaded
  | some order =>
    cases outcome with
    | error error => exact .unloaded world rfl
    | ok handle => exact .tried (order.search.mayLead_complete _ world) _ rfl

/-- How many times a request makes its caller wait after its loader gave this outcome. -/
def Order.waits (order? : Option Order) (outcome : Outcome σ) (world : World σ) : Nat :=
  match order?, outcome with
  | some order, .ok handle => order.search.waits (resolveCandidates handle.module) world
  | _, _ => 0

/-- How many times a request makes its caller wait, provided that it is not refused. -/
def Order.waitsOn (order? : Option Order) (loader : Loader σ) (world : World σ) : Nat :=
  (if loader.isSettled then 0 else loader.search.waits loader.steps world) +
    waits order? (loader.load world).value.1 (loader.load world).world

namespace Requests

/-! ## Poll by poll -/

def pollTimes (requests : Requests σ) (number count : Nat) : Run σ (Requests σ) :=
  Search.pollRepeatedly (fun polled => polled.poll number) count requests

/-- A request that has returned is not changed by polls. -/
theorem pollTimes_of_returned {requests : Requests σ} {number : Nat} {purpose : Purpose} {reply : Reply σ}
    (returned : requests.entries[number]? = some ⟨purpose, .returned reply⟩) (count : Nat) :
    requests.pollTimes number count = pure requests := by
  refine Search.pollRepeatedly_of_idle ?_ count
  simp only [poll, returned]

theorem setPhase_setPhase (requests : Requests σ) (number : Nat) (first second : Phase σ) :
    (requests.setPhase number first).setPhase number second = requests.setPhase number second := by
  simp only [setPhase, List.modify_modify_eq]
  rfl

section Trying

variable {requests : Requests σ} {number : Nat} {purpose : Purpose} {phase : Phase σ}

/-- Polls of a request that tries factories are polls of its search. -/
theorem poll_setPhase_trying (present : requests.entries[number]? = some ⟨purpose, phase⟩) (order : Order)
    (attempt : CandidateChain.Attempt σ) :
    (requests.setPhase number (.trying order attempt)).poll number = (do
      let progress ← order.search.poll attempt
      let phase ← order.proceed progress
      return requests.setPhase number phase) := by
  simp only [poll, entry_setPhase_self present, setPhase_setPhase]

/-- A request that goes on from the outcome of its loader concludes within the polls that its factories need. -/
theorem pollTimes_of_begins (present : requests.entries[number]? = some ⟨purpose, phase⟩)
    (order? : Option Order) (outcome : Outcome σ) {count : Nat} {world : World σ}
    (enough : Order.waits order? outcome world ≤ count) :
    (do
      let begun ← Order.begin order? outcome
      (requests.setPhase number begun).pollTimes number count) world = (do
      let reply ← Order.conclude order? outcome
      return requests.setPhase number (.returned reply)) world := by
  have replied (reply : Reply σ) : (requests.setPhase number (.returned reply)).pollTimes number count = _ :=
    pollTimes_of_returned (entry_setPhase_self present _) count
  cases order? with
  | none => simp only [Order.begin, Order.conclude, pure_bind, replied]
  | some order =>
    cases outcome with
    | error error =>
      simp only [Order.begin, Order.conclude, map_eq_pure_bind, bind_assoc, pure_bind, replied]
    | ok handle =>
      have held : Search.Held order.search (fun polled : Requests σ => polled.poll number)
          (fun attempt => requests.setPhase number (.trying order attempt))
          (fun progress => do
            let phase ← order.proceed progress
            return requests.setPhase number phase) :=
        ⟨fun attempt => by simp only [Order.proceed, pure_bind], poll_setPhase_trying present order⟩
      have tried := held.pollRepeatedly_of_begins (resolveCandidates handle.module) enough
      simp only [bind_assoc, pure_bind] at tried
      simp only [Order.begin, Order.conclude, bind_assoc]
      refine tried.trans ?_
      simp only [Order.proceed, map_eq_pure_bind, bind_assoc, pure_bind]
      refine congrFun (congrArg (order.search.complete _ >>= ·) (funext fun result => ?_)) world
      refine congrArg (order.reply result >>= ·) (funext fun reply => ?_)
      exact pollTimes_of_returned (entry_setPhase_self present _) _

end Trying

/-- Record where a poll has left the attempt of a request's call, and go on if the attempt is finished. -/
def follow (requests : Requests σ) (number : Nat) (id : LoaderId) (order? : Option Order)
    (progress : Progress σ) : Run σ (Requests σ) :=
  let requests := { requests with pool := requests.pool.advance number id progress }
  match progress with
  | .waiting _ => return requests
  | .finished outcome => do
    let phase ← Order.begin order? outcome
    return requests.setPhase number phase

section Pending

variable {requests : Requests σ} {number : Nat} {id : LoaderId} {purpose : Purpose} {order? : Option Order}

theorem poll_of_drives {run : Run σ (Progress σ)}
    (pending : requests.entries[number]? = some ⟨purpose, .pending⟩)
    (accepted : purpose.order = .ok order?) (drives : requests.pool.Drives number id run) :
    requests.poll number = (do
      let progress ← run
      requests.follow number id order? progress) := by
  rcases drives.call_eq with ⟨stage, present⟩
  simp only [poll, pending, accepted, Pool.poll_of_drives drives, bind_assoc, pure_bind,
    Pool.outcome?_advance present]
  refine congrArg (run >>= ·) (funext fun progress => ?_)
  cases progress <;> rfl

theorem follow_advance (attempt : Attempt σ) (progress : Progress σ) :
    { requests with pool := requests.pool.advance number id (.waiting attempt) }.follow number id order?
        progress =
      requests.follow number id order? progress := by
  cases progress <;> simp only [follow, Pool.advance_advance]

/-- A request whose call has an attempt under way passes its polls on to the attempt. -/
theorem poll_advance_waiting {stage : Stage σ}
    (pending : requests.entries[number]? = some ⟨purpose, .pending⟩)
    (accepted : purpose.order = .ok order?)
    (present : requests.pool.calls[number]? = some ⟨id, stage⟩) (attempt : Attempt σ) :
    ({ requests with pool := requests.pool.advance number id (.waiting attempt) } : Requests σ).poll number =
      (requests.pool.loaders id).search.poll attempt >>= requests.follow number id order? := by
  have drives : (requests.pool.advance number id (.waiting attempt)).Drives number id
      ((requests.pool.loaders id).search.poll attempt) :=
    .continues (Pool.call_advance present (.waiting attempt))
  have stillPending : ({ requests with pool := requests.pool.advance number id (.waiting attempt)
      } : Requests σ).entries[number]? = some ⟨purpose, .pending⟩ := pending
  simpa only [follow_advance] using poll_of_drives stillPending accepted drives

end Pending

/-- A request whose loader nobody else works on carries out an attempt alone, and concludes with its outcome. -/
theorem pollTimes_make_of_unsettled {requests : Requests σ} (aligned : requests.Aligned) {id : LoaderId}
    (unsettled : (requests.pool.loaders id).cell = none) (idle : requests.pool.isBusy id = false)
    {purpose : Purpose} {order? : Option Order} (accepted : purpose.order = .ok order?) {count : Nat}
    {world : World σ}
    (enough : (requests.pool.loaders id).search.waits (requests.pool.loaders id).steps world +
      Order.waits order? ((requests.pool.loaders id).attempt world).value
        ((requests.pool.loaders id).attempt world).world ≤ count) :
    (requests.make id purpose).pollTimes requests.entries.length (count + 1) world = (do
      let outcome ← (requests.pool.loaders id).attempt
      let reply ← Order.conclude order? outcome
      return { requests.make id purpose with
          pool := (requests.pool.openCall id).advance requests.entries.length id (.finished outcome)
        }.setPhase requests.entries.length (.returned reply)) world := by
  have pending := requests.entry_make id purpose
  have queued := call_make aligned id purpose
  have begins := poll_of_drives pending accepted
    (.begins queued unsettled ((requests.pool.isBusy_openCall id id).trans idle))
  have held : Search.Held (requests.pool.loaders id).search
      (fun polled : Requests σ => polled.poll requests.entries.length) _
      ((requests.make id purpose).follow requests.entries.length id order?) :=
    ⟨fun attempt => rfl, poll_advance_waiting pending accepted queued⟩
  have polled : (requests.make id purpose).pollTimes requests.entries.length (count + 1) = _ :=
    congrArg (· >>= _) begins
  rw [polled, bind_assoc]
  refine (held.pollRepeatedly_of_begins _ (Nat.le_of_add_right_le enough)).trans (Run.bind_apply_congr ?_)
  simp only [follow, bind_assoc, pure_bind]
  have present : ({ requests.make id purpose with
      pool := (requests.pool.openCall id).advance requests.entries.length id
        (.finished ((requests.pool.loaders id).attempt world).value)
      } : Requests σ).entries[requests.entries.length]? = some ⟨purpose, .pending⟩ := pending
  exact pollTimes_of_begins present order? _ (Nat.le_sub_of_add_le' enough)

theorem poll_make_of_refused (requests : Requests σ) (id : LoaderId) {purpose : Purpose}
    {error : KeygenError} (refusal : purpose.order = .error error) :
    (requests.make id purpose).poll requests.entries.length =
      pure ({ requests.make id purpose with
        pool := (requests.pool.openCall id).drop requests.entries.length
        }.setPhase requests.entries.length (.returned (.generated (.error error)))) := by
  simp only [poll, requests.entry_make id purpose, refusal]
  rfl

/-- A request on a settled loader concludes with the kept outcome within the polls that its factories need. -/
theorem pollTimes_make_of_settled {requests : Requests σ} (aligned : requests.Aligned) {id : LoaderId}
    {outcome : Outcome σ} (settled : (requests.pool.loaders id).cell = some outcome) {purpose : Purpose}
    {order? : Option Order} (accepted : purpose.order = .ok order?) {count : Nat} {world : World σ}
    (enough : Order.waits order? outcome world ≤ count) :
    (requests.make id purpose).pollTimes requests.entries.length (count + 1) world = (do
      let reply ← Order.conclude order? outcome
      return { requests.make id purpose with
          pool := (requests.pool.openCall id).setStage requests.entries.length (.finished outcome)
        }.setPhase requests.entries.length (.returned reply)) world := by
  have polled : (requests.make id purpose).pollTimes requests.entries.length (count + 1) = _ :=
    congrArg (· >>= _) (poll_make_of_settled aligned settled accepted)
  have present : ({ requests.make id purpose with
      pool := (requests.pool.openCall id).setStage requests.entries.length (.finished outcome)
      } : Requests σ).entries[requests.entries.length]? = some ⟨purpose, .pending⟩ :=
    requests.entry_make id purpose
  rw [polled, bind_assoc]
  simp only [pure_bind]
  exact pollTimes_of_begins present order? outcome enough

/-- A request on a loader that nobody else works on, polled often enough and with nothing in between, is the
request in one go. -/
theorem uninterrupted_request {requests : Requests σ} (aligned : requests.Aligned) {id : LoaderId}
    (idle : requests.pool.isBusy id = false) (purpose : Purpose) {count : Nat} {world : World σ}
    (enough : ∀ order?, purpose.order = .ok order? →
      Order.waitsOn order? (requests.pool.loaders id) world ≤ count) :
    let whole := purpose.complete (requests.pool.loaders id) world
    let ending := (requests.make id purpose).pollTimes requests.entries.length (count + 1) world
    ∃ pool : Pool σ, pool.loaders = requests.pool.loaders.set id whole.value.2 ∧
      ending = ⟨{ requests.make id purpose with pool }.setPhase requests.entries.length
        (.returned whole.value.1), whole.world, whole.events⟩ := by
  intro whole ending
  cases ordered : purpose.order with
  | error error =>
    have inOneGo : whole = ⟨(.generated (.error error), requests.pool.loaders id), world, []⟩ := by
      change purpose.complete _ world = _
      rw [Purpose.complete_of_refused ordered, Run.pure_apply]
    have present : ({ requests.make id purpose with
        pool := (requests.pool.openCall id).drop requests.entries.length
        } : Requests σ).entries[requests.entries.length]? = some ⟨purpose, .pending⟩ :=
      requests.entry_make id purpose
    have polled : (requests.make id purpose).pollTimes requests.entries.length (count + 1) = _ :=
      congrArg (· >>= _) (requests.poll_make_of_refused id ordered)
    rw [inOneGo]
    refine ⟨(requests.pool.openCall id).drop requests.entries.length, ?_, ?_⟩
    · rw [Pool.loaders_drop, Pool.loaders_openCall, Loaders.set_self]
    · change (requests.make id purpose).pollTimes requests.entries.length (count + 1) world = _
      rw [polled, pure_bind]
      exact congrFun (pollTimes_of_returned (entry_setPhase_self present _) count) world
  | ok order? =>
    have inOneGo : whole = _ := congrFun (purpose.complete_of_accepted ordered _) world
    have needed := enough order? ordered
    cases kept : (requests.pool.loaders id).cell with
    | some outcome =>
      have loaded : (requests.pool.loaders id).load = pure (outcome, requests.pool.loaders id) :=
        load_of_settled kept
      rw [Order.waitsOn, isSettled, kept, loaded] at needed
      rw [loaded, pure_bind, Run.bind_apply, Run.pure_apply, List.append_nil] at inOneGo
      rw [inOneGo]
      refine ⟨(requests.pool.openCall id).setStage requests.entries.length (.finished outcome), ?_, ?_⟩
      · rw [Pool.loaders_setStage, Pool.loaders_openCall, Loaders.set_self]
      · refine (pollTimes_make_of_settled aligned kept ordered ?_).trans ?_
        · exact Nat.le_trans (Nat.le_add_left _ _) needed
        · simp only [Run.bind_apply, Run.pure_apply, List.append_nil]
    | none =>
      rw [Order.waitsOn, isSettled, kept, load_of_unsettled kept] at needed
      rw [Run.bind_apply, load_of_unsettled kept] at inOneGo
      simp only [Run.bind_apply, Run.pure_apply, List.append_nil] at inOneGo
      rw [inOneGo]
      refine ⟨(requests.pool.openCall id).advance requests.entries.length id
        (.finished ((requests.pool.loaders id).attempt world).value), rfl, ?_⟩
      refine (pollTimes_make_of_unsettled aligned kept idle ordered needed).trans ?_
      simp only [Run.bind_apply, Run.pure_apply, List.append_nil]

end Requests
end NodeKeys
