import NodeKeys.Search

/-!
# Searches that are polled

A search that is polled to its end does what it does in one go.  At every moment in between, the part that has
been carried out and the part that is still to come (`Progress.complete`) make up the whole: the same result, the
same world at the end, and the same events in the same order.  How many polls that takes depends on the waits.

If other things happen between the polls, the worlds in which something is started and in which it answers have
nothing to do with each other.  `MayLead` says what can come of a search then.
-/

namespace NodeKeys
namespace Search

variable {σ ι α β : Type}

/-! ## One item after the other -/

/-- Start something for an item and consider its answer, without interruption. -/
def tryItem (search : Search σ ι α β) (item : ι) : Run σ (Option β) := do
  let pending ← search.start item
  search.conclude item pending

theorem complete_cons (search : Search σ ι α β) (item : ι) (rest : List ι) :
    search.complete (item :: rest) = (do
      match ← search.tryItem item with
      | some found => return .ok found
      | none => search.complete rest) :=
  (bind_assoc (search.start item) (search.conclude item) _).symm

section Items

variable {search : Search σ ι α β} {item : ι} {rest : List ι} {world : World σ}

theorem complete_of_some {found : β} (decided : (search.tryItem item world).value = some found) :
    search.complete (item :: rest) world =
      ⟨.ok found, (search.tryItem item world).world, (search.tryItem item world).events⟩ := by
  rw [complete_cons, Run.bind_apply, decided]
  simp only [Run.pure_apply, List.append_nil]

theorem complete_of_none (passed : (search.tryItem item world).value = none) :
    search.complete (item :: rest) world =
      ⟨(search.complete rest (search.tryItem item world).world).value,
        (search.complete rest (search.tryItem item world).world).world,
        (search.tryItem item world).events ++
          (search.complete rest (search.tryItem item world).world).events⟩ := by
  rw [complete_cons, Run.bind_apply, passed]

theorem waits_of_some {found : β} (decided : (search.tryItem item world).value = some found) :
    search.waits (item :: rest) world = (search.start item world).value.waits := by
  change (search.conclude item (search.start item world).value (search.start item world).world).value = _
    at decided
  rw [waits, decided, Nat.add_zero]

theorem waits_of_none (passed : (search.tryItem item world).value = none) :
    search.waits (item :: rest) world =
      (search.start item world).value.waits + search.waits rest (search.tryItem item world).world := by
  change (search.conclude item (search.start item world).value (search.start item world).world).value = _
    at passed
  rw [waits, passed]
  rfl

end Items

/-! ## What is still to come -/

def Progress.result? : Progress σ ι α β → Option (Except KeygenError β)
  | .waiting _ => none
  | .finished result => some result

/-- Carry a search to its end in one go, from where a poll has left it. -/
def Progress.complete (search : Search σ ι α β) : Progress σ ι α β → Run σ (Except KeygenError β)
  | .finished result => return result
  | .waiting attempt => do
    match ← search.conclude attempt.item attempt.pending with
    | some found => return .ok found
    | none => search.complete attempt.rest

theorem begin_complete (search : Search σ ι α β) (items : List ι) :
    (search.begin items >>= fun progress => progress.complete search) = search.complete items := by
  induction items with
  | nil => rfl
  | cons item rest inductionHypothesis =>
    simp only [begin, complete, bind_assoc]
    congr 1
    funext pending
    rcases pending with ⟨waits, answer⟩
    cases waits with
    | succ waits => exact pure_bind _ _
    | zero =>
      -- The answer is ready at once, so the same poll goes on to the next item.
      simp only [bind_assoc]
      congr 1
      funext decided
      cases decided with
      | some found => simp only [pure_bind, Progress.complete]
      | none => exact inductionHypothesis

theorem poll_complete (search : Search σ ι α β) (attempt : Attempt σ ι α) :
    (search.poll attempt >>= fun progress => progress.complete search) =
      (Progress.waiting attempt).complete search := by
  rcases attempt with ⟨item, ⟨waits, answer⟩, rest⟩
  cases waits with
  | succ waits => simp only [poll, pure_bind]; rfl
  | zero =>
    simp only [poll, Progress.complete, bind_assoc]
    congr 1
    funext decided
    cases decided with
    | some found => rfl
    | none => exact search.begin_complete rest

/-! ## How many polls it takes -/

/-- How many more polls a search takes if nothing comes between them. -/
def Progress.pollsLeft (search : Search σ ι α β) : Progress σ ι α β → World σ → Nat
  | .finished _, _ => 0
  | .waiting attempt, world =>
    let concluded := search.conclude attempt.item attempt.pending world
    attempt.pending.waits + 1 +
      match concluded.value with
      | some _ => 0
      | none => search.waits attempt.rest concluded.world

theorem pollsLeft_begin (search : Search σ ι α β) (items : List ι) (world : World σ) :
    (search.begin items world).value.pollsLeft search (search.begin items world).world =
      search.waits items world := by
  induction items generalizing world with
  | nil => rfl
  | cons item rest inductionHypothesis =>
    simp only [begin, waits, Run.bind_apply]
    rcases search.start item world with ⟨⟨waits, answer⟩, started, events⟩
    cases waits with
    | succ waits => rfl
    | zero =>
      simp only [Run.bind_apply, Nat.zero_add]
      cases (search.conclude item ⟨0, answer⟩ started).value with
      | some found => rfl
      | none => exact inductionHypothesis _

theorem pollsLeft_poll (search : Search σ ι α β) (attempt : Attempt σ ι α) (world : World σ) :
    (search.poll attempt world).value.pollsLeft search (search.poll attempt world).world + 1 =
      (Progress.waiting attempt).pollsLeft search world := by
  rcases attempt with ⟨item, ⟨waits, answer⟩, rest⟩
  cases waits with
  | succ waits => exact Nat.add_right_comm _ _ 1
  | zero =>
    simp only [poll, Run.bind_apply, Progress.pollsLeft, Nat.zero_add]
    cases (search.conclude item ⟨0, answer⟩ world).value with
    | some found => rfl
    | none => exact (congrArg (· + 1) (search.pollsLeft_begin rest _)).trans (Nat.add_comm _ 1)

/-! ## Polls without interruption -/

def pollRepeatedly {γ : Type} (poll : γ → Run σ γ) : (count : Nat) → γ → Run σ γ
  | 0, polled => return polled
  | count + 1, polled => do
    let next ← poll polled
    pollRepeatedly poll count next

/-- Polls that change nothing can be made any number of times. -/
theorem pollRepeatedly_of_idle {γ : Type} {poll : γ → Run σ γ} {polled : γ} (idle : poll polled = pure polled)
    (count : Nat) : pollRepeatedly poll count polled = pure polled := by
  induction count with
  | zero => rfl
  | succ count inductionHypothesis => rw [pollRepeatedly, idle, pure_bind, inductionHypothesis]

/-- Somebody holds a search that waits, passes every poll on to it, and follows up on what it comes to. -/
structure Held {γ : Type} (search : Search σ ι α β) (poll : γ → Run σ γ) (hold : Attempt σ ι α → γ)
    (follow : Progress σ ι α β → Run σ γ) : Prop where
  holds : ∀ attempt, follow (.waiting attempt) = pure (hold attempt)
  passesOn : ∀ attempt, poll (hold attempt) = search.poll attempt >>= follow

namespace Held

variable {γ : Type} {search : Search σ ι α β} {poll : γ → Run σ γ} {hold : Attempt σ ι α → γ}
  {follow : Progress σ ι α β → Run σ γ}

/-- As many polls as the search needs carry it out as a whole, and the polls after them start from its result. -/
theorem pollRepeatedly (held : Held search poll hold follow) (progress : Progress σ ι α β) (more : Nat)
    (world : World σ) :
    (follow progress >>= Search.pollRepeatedly poll (progress.pollsLeft search world + more)) world =
      (progress.complete search >>= fun result =>
        follow (.finished result) >>= Search.pollRepeatedly poll more) world := by
  generalize left : progress.pollsLeft search world = needed
  induction needed generalizing progress world with
  | zero =>
    cases progress with
    | finished result => rw [Progress.complete, pure_bind, Nat.zero_add]
    | waiting attempt =>
      rw [Progress.pollsLeft] at left
      omega
  | succ needed inductionHypothesis =>
    cases progress with
    | finished result => cases left
    | waiting attempt =>
      have polled := search.pollsLeft_poll attempt world
      rw [left] at polled
      rw [held.holds, pure_bind, Nat.add_right_comm, Search.pollRepeatedly, held.passesOn,
        ← search.poll_complete attempt, bind_assoc, bind_assoc]
      exact Run.bind_apply_congr (inductionHypothesis _ _ (Nat.succ.inj polled))

theorem pollRepeatedly_of_begins (held : Held search poll hold follow) (items : List ι) {count : Nat}
    {world : World σ} (enough : search.waits items world ≤ count) :
    (search.begin items >>= fun progress => follow progress >>= Search.pollRepeatedly poll count) world =
      (search.complete items >>= fun result =>
        follow (.finished result) >>= Search.pollRepeatedly poll (count - search.waits items world)) world := by
  rw [← search.begin_complete items, bind_assoc]
  refine Run.bind_apply_congr ?_
  have polled := held.pollRepeatedly (search.begin items world).value
    (count - search.waits items world) (search.begin items world).world
  rw [search.pollsLeft_begin, Nat.add_sub_cancel' enough] at polled
  exact polled

end Held

/-- Polls after which a search is finished, and those after it was finished, leave its result alone. -/
def Progress.pollTimes (search : Search σ ι α β) : (count : Nat) → Progress σ ι α β → Run σ (Progress σ ι α β)
  | 0, progress => return progress
  | _ + 1, .finished result => return .finished result
  | count + 1, .waiting attempt => do
    let next ← search.poll attempt
    next.pollTimes search count

theorem pollTimes_complete (search : Search σ ι α β) (count : Nat) (progress : Progress σ ι α β) :
    (progress.pollTimes search count >>= fun later => later.complete search) =
      progress.complete search := by
  induction count generalizing progress with
  | zero => rfl
  | succ count inductionHypothesis =>
    cases progress with
    | finished result => rfl
    | waiting attempt =>
      simp only [Progress.pollTimes, bind_assoc, inductionHypothesis]
      exact search.poll_complete attempt

theorem pollsLeft_pollTimes (search : Search σ ι α β) (count : Nat) (progress : Progress σ ι α β)
    (world : World σ) :
    (progress.pollTimes search count world).value.pollsLeft search
        (progress.pollTimes search count world).world =
      progress.pollsLeft search world - count := by
  induction count generalizing progress world with
  | zero => rfl
  | succ count inductionHypothesis =>
    cases progress with
    | finished result => simp [Progress.pollTimes, Progress.pollsLeft, Run.pure_apply]
    | waiting attempt =>
      have polled := search.pollsLeft_poll attempt world
      simp only [Progress.pollTimes, Run.bind_apply, inductionHypothesis]
      omega

/-- What one poll and this many more leave of a search. -/
def polled (search : Search σ ι α β) (items : List ι) (count : Nat) : Run σ (Progress σ ι α β) := do
  let progress ← search.begin items
  progress.pollTimes search count

/-- The polls and what comes after them make up the search. -/
theorem polled_complete (search : Search σ ι α β) (items : List ι) (count : Nat) :
    (search.polled items count >>= fun progress => progress.complete search) = search.complete items := by
  simp only [polled, bind_assoc, pollTimes_complete]
  exact search.begin_complete items

theorem pollsLeft_polled (search : Search σ ι α β) (items : List ι) (count : Nat) (world : World σ) :
    (search.polled items count world).value.pollsLeft search (search.polled items count world).world =
      search.waits items world - count := by
  rw [polled, Run.bind_apply]
  exact (search.pollsLeft_pollTimes count _ _).trans (congrArg (· - count) (search.pollsLeft_begin items world))

/-- Enough polls carry out the whole search. -/
theorem polled_of_enough {search : Search σ ι α β} {items : List ι} {count : Nat} {world : World σ}
    (enough : search.waits items world ≤ count) :
    search.polled items count world =
      ⟨.finished (search.complete items world).value, (search.complete items world).world,
        (search.complete items world).events⟩ := by
  have left := search.pollsLeft_polled items count world
  rw [Nat.sub_eq_zero_of_le enough] at left
  rw [← search.polled_complete items count, Run.bind_apply]
  generalize search.polled items count world = ending at left ⊢
  rcases ending with ⟨attempt | result, next, events⟩
  · rw [Progress.pollsLeft] at left
    omega
  · simp only [Progress.complete, Run.pure_apply, List.append_nil]

/-! ## Polls with anything in between -/

/-- Trying an item may decide this, in whatever worlds something is started for it and answers. -/
def MayDecide (search : Search σ ι α β) (item : ι) (decided : Option β) : Prop :=
  ∃ before after, (search.conclude item (search.start item before).value after).value = decided

/-- Where a search over these items may have come to if anything may happen whenever it waits. -/
inductive MayLead (search : Search σ ι α β) : List ι → Progress σ ι α β → Prop
  | exhausted : MayLead search [] (.finished (.error search.exhausted))
  | waiting {item : ι} {rest : List ι} {pending : Pending σ α} (world : World σ)
      (asked : pending.waits < (search.start item world).value.waits)
      (same : pending.answer = (search.start item world).value.answer) :
      MayLead search (item :: rest) (.waiting ⟨item, pending, rest⟩)
  | found {item : ι} {rest : List ι} {found : β} (decides : search.MayDecide item (some found)) :
      MayLead search (item :: rest) (.finished (.ok found))
  | passed {item : ι} {rest : List ι} {progress : Progress σ ι α β} (passes : search.MayDecide item none)
      (onward : MayLead search rest progress) : MayLead search (item :: rest) progress

theorem mayLead_begin (search : Search σ ι α β) (items : List ι) (world : World σ) :
    search.MayLead items (search.begin items world).value := by
  induction items generalizing world with
  | nil => exact .exhausted
  | cons item rest inductionHypothesis =>
    simp only [begin, Run.bind_apply]
    cases started : (search.start item world).value.waits with
    | succ waits => exact .waiting world (started ▸ Nat.lt_succ_self waits) rfl
    | zero =>
      simp only [Run.bind_apply]
      cases decided : (search.conclude item (search.start item world).value
          (search.start item world).world).value with
      | some found => exact .found ⟨world, _, decided⟩
      | none => exact .passed ⟨world, _, decided⟩ (inductionHypothesis _)

/-- A poll leads nowhere that was not open from the start. -/
theorem MayLead.poll {search : Search σ ι α β} {items : List ι} {attempt : Attempt σ ι α}
    (leads : search.MayLead items (.waiting attempt)) (world : World σ) :
    search.MayLead items (search.poll attempt world).value := by
  generalize reached : Progress.waiting attempt = progress at leads
  induction leads with
  | exhausted => cases reached
  | found => cases reached
  | passed passes _ inductionHypothesis => exact .passed passes (inductionHypothesis reached)
  | @waiting item rest pending before asked same =>
    cases reached
    rcases pending with ⟨waits, answer⟩
    cases waits with
    | succ waits => exact .waiting before (Nat.lt_of_succ_lt asked) same
    | zero =>
      cases same
      simp only [Search.poll, Run.bind_apply]
      cases decided : (search.conclude item ⟨0, _⟩ world).value with
      | some found => exact .found ⟨before, world, decided⟩
      | none => exact .passed ⟨before, world, decided⟩ (search.mayLead_begin rest _)

/-- What a search comes to in one go is one of the things that it may come to. -/
theorem mayLead_complete (search : Search σ ι α β) (items : List ι) (world : World σ) :
    search.MayLead items (.finished (search.complete items world).value) := by
  induction items generalizing world with
  | nil => exact .exhausted
  | cons item rest inductionHypothesis =>
    cases decided : (search.tryItem item world).value with
    | some found =>
      rw [complete_of_some decided]
      exact .found ⟨world, _, decided⟩
    | none =>
      rw [complete_of_none decided]
      exact .passed ⟨world, _, decided⟩ (inductionHypothesis _)

/-- If what an item decides never depends on the world, the search can end in one way only. -/
theorem MayLead.unique {search : Search σ ι α β} {items : List ι} {first second : Except KeygenError β}
    (steady : ∀ item ∈ items, ∀ {one other : Option β}, search.MayDecide item one →
      search.MayDecide item other → one = other)
    (one : search.MayLead items (.finished first)) (other : search.MayLead items (.finished second)) :
    first = second := by
  induction items with
  | nil =>
    cases one
    cases other
    rfl
  | cons item rest inductionHypothesis =>
    have settled := @steady item List.mem_cons_self
    cases one with
    | found decides =>
      cases other with
      | found again => cases settled decides again; rfl
      | passed again _ => cases settled decides again
    | passed passes onward =>
      cases other with
      | found again => cases settled passes again
      | passed _ further =>
        exact inductionHypothesis (fun item member => steady item (List.mem_cons_of_mem _ member)) onward further

/-! ## Searches that never wait -/

/-- Nothing that is started for these items makes its caller wait. -/
def Immediate (search : Search σ ι α β) (items : List ι) : Prop :=
  ∀ item ∈ items, ∀ world, (search.start item world).value.waits = 0

section Immediate

variable {search : Search σ ι α β} {items : List ι} (immediate : search.Immediate items)
include immediate

theorem waits_of_immediate (world : World σ) : search.waits items world = 0 := by
  induction items generalizing world with
  | nil => rfl
  | cons item rest inductionHypothesis =>
    have onward : ∀ world, search.waits rest world = 0 :=
      inductionHypothesis fun item member => immediate item (List.mem_cons_of_mem _ member)
    rw [waits, immediate item List.mem_cons_self, Nat.zero_add]
    split
    · rfl
    · exact onward _

/-- The first poll is the whole search. -/
theorem begin_of_immediate (world : World σ) :
    search.begin items world =
      ⟨.finished (search.complete items world).value, (search.complete items world).world,
        (search.complete items world).events⟩ := by
  have first : search.polled items 0 = search.begin items := bind_pure _
  rw [← first]
  exact polled_of_enough (Nat.le_of_eq (waits_of_immediate immediate world))

theorem MayLead.exists_finished {progress : Progress σ ι α β} (leads : search.MayLead items progress) :
    ∃ result, progress = .finished result := by
  induction leads with
  | exhausted => exact ⟨_, rfl⟩
  | found => exact ⟨_, rfl⟩
  | @waiting item _ _ world asked =>
    rw [immediate item List.mem_cons_self] at asked
    cases asked
  | passed _ _ inductionHypothesis =>
    exact inductionHypothesis fun item member => immediate item (List.mem_cons_of_mem _ member)

end Immediate

end Search
end NodeKeys
