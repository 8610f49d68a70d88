import NodeKeys.Loader.Attempt
import NodeKeys.Proofs.Search

/-!
# The imports of an attempt

An attempt imports the packages of its steps in order, one import for each step that it tries.  If every import
makes its caller wait the same number of times, the number of polls follows from the number of imports, and the
number of imports that have been started follows from the number of polls.
-/

namespace NodeKeys
namespace Loader

variable {σ : Type}

/-- Deciding about an answer starts no import. -/
theorem imports_conclude (source : Source σ) (total : Nat) (step : Step) (pending : Pending σ (Answer σ))
    (world : World σ) :
    Event.imports ((source.search total).conclude step pending world).events = [] := by
  rw [Search.conclude, Run.bind_apply]
  change Event.imports (consider step (pending.answer world.state).1 _).events = []
  rcases (pending.answer world.state).1 with error | _ | module
  · rfl
  · rfl
  · cases selected : step.access.select module <;> simp only [consider, selected] <;> rfl

theorem imports_tryItem (source : Source σ) (total : Nat) (step : Step) (world : World σ) :
    Event.imports ((source.search total).tryItem step world).events = [step.specifier] :=
  congrArg (step.specifier :: ·) (imports_conclude source total step _ _)

/-- An attempt imports the packages of its steps in order, and possibly not all of them. -/
theorem imports_complete_inOrder (source : Source σ) (total : Nat) (steps : List Step)
    (world : World σ) :
    Event.imports ((source.search total).complete steps world).events <+: steps.map Step.specifier := by
  induction steps generalizing world with
  | nil => exact List.prefix_rfl
  | cons step rest inductionHypothesis =>
    cases decided : ((source.search total).tryItem step world).value with
    | some handle =>
      rw [Search.complete_of_some decided, imports_tryItem]
      exact List.cons_prefix_cons.mpr ⟨rfl, List.nil_prefix⟩
    | none =>
      rw [Search.complete_of_none decided, Event.imports_append, imports_tryItem]
      exact List.cons_prefix_cons.mpr ⟨rfl, inductionHypothesis _⟩

/-! ## Sources that answer after a fixed number of polls -/

/-- Every import makes its caller wait this many times. -/
def Source.Waits (source : Source σ) (waits : Nat) : Prop :=
  ∀ specifier state, (source.start specifier state).1.waits = waits

section Steady

variable {source : Source σ} {waits : Nat} (steady : source.Waits waits) {total : Nat}
include steady

theorem Source.Waits.start (step : Step) (world : World σ) :
    ((source.search total).start step world).value.waits = waits :=
  steady step.specifier world.state

theorem waits_of_steady (steps : List Step) (world : World σ) :
    (source.search total).waits steps world =
      (Event.imports ((source.search total).complete steps world).events).length * waits := by
  induction steps generalizing world with
  | nil => simp [Search.waits, Search.complete, Run.pure_apply, Event.imports]
  | cons step rest inductionHypothesis =>
    cases decided : ((source.search total).tryItem step world).value with
    | some handle =>
      rw [Search.waits_of_some decided, steady.start, Search.complete_of_some decided, imports_tryItem,
        List.length_singleton, Nat.one_mul]
    | none =>
      rw [Search.waits_of_none decided, steady.start, inductionHypothesis, Search.complete_of_none decided,
        Event.imports_append, imports_tryItem, List.singleton_append, List.length_cons, Nat.add_mul, Nat.one_mul,
        Nat.add_comm]

/-- How many polls are left tells how many imports are still to be started: it counts their waits, and those
of the import under way. -/
theorem pollsLeft_waiting_of_steady (attempt : Attempt σ) (world : World σ) :
    (Search.Progress.waiting attempt).pollsLeft (source.search total) world =
      attempt.pending.waits + (Event.imports
        ((Search.Progress.waiting attempt).complete (source.search total) world).events).length * waits + 1 := by
  rw [Search.Progress.complete, Run.bind_apply, Event.imports_append, imports_conclude, List.nil_append,
    Search.Progress.pollsLeft]
  cases ((source.search total).conclude attempt.item attempt.pending world).value with
  | some handle => simp [Run.pure_apply, Event.imports]
  | none =>
    dsimp only
    rw [waits_of_steady steady]
    omega

/-- The import under way has been polled at least once. -/
theorem begin_waits_lt {steps : List Step} {world : World σ} {attempt : Attempt σ}
    (waiting : ((source.search total).begin steps world).value = .waiting attempt) :
    attempt.pending.waits < waits := by
  induction steps generalizing world with
  | nil => cases waiting
  | cons step rest inductionHypothesis =>
    have started : ((source.search total).start step world).value.waits = waits := steady.start step world
    simp only [Search.begin, Run.bind_apply] at waiting
    generalize (source.search total).start step world = ending at started waiting
    rcases ending with ⟨⟨left, answer⟩, next, events⟩
    cases left with
    | succ left =>
      cases waiting
      exact Nat.lt_of_succ_le (Nat.le_of_eq started)
    | zero =>
      simp only [Run.bind_apply] at waiting
      cases decided : ((source.search total).conclude step ⟨0, answer⟩ next).value with
      | some handle =>
        rw [decided] at waiting
        cases waiting
      | none =>
        rw [decided] at waiting
        exact inductionHypothesis waiting

theorem poll_waits_lt {attempt later : Attempt σ} {world : World σ}
    (bounded : attempt.pending.waits < waits)
    (waiting : ((source.search total).poll attempt world).value = .waiting later) :
    later.pending.waits < waits := by
  rcases attempt with ⟨step, ⟨left, answer⟩, rest⟩
  cases left with
  | succ left =>
    cases waiting
    exact Nat.lt_of_succ_lt bounded
  | zero =>
    simp only [Search.poll, Run.bind_apply] at waiting
    cases decided : ((source.search total).conclude step ⟨0, answer⟩ world).value with
    | some handle =>
      rw [decided] at waiting
      cases waiting
    | none =>
      rw [decided] at waiting
      exact begin_waits_lt steady waiting

theorem pollTimes_waits_lt {count : Nat} {attempt later : Attempt σ} {world : World σ}
    (bounded : attempt.pending.waits < waits)
    (waiting : ((Search.Progress.waiting attempt).pollTimes (source.search total) count world).value =
      .waiting later) :
    later.pending.waits < waits := by
  induction count generalizing attempt world with
  | zero =>
    cases waiting
    exact bounded
  | succ count inductionHypothesis =>
    simp only [Search.Progress.pollTimes, Run.bind_apply] at waiting
    cases polled : ((source.search total).poll attempt world).value with
    | waiting next =>
      rw [polled] at waiting
      exact inductionHypothesis (poll_waits_lt steady bounded polled) waiting
    | finished outcome =>
      rw [polled] at waiting
      cases count <;> cases waiting

section Polled

variable {steps : List Step} {count : Nat} {world : World σ}

theorem polled_waits_lt {attempt : Attempt σ}
    (waiting : ((source.search total).polled steps count world).value = .waiting attempt) :
    attempt.pending.waits < waits := by
  rw [Search.polled, Run.bind_apply] at waiting
  dsimp only at waiting
  cases begun : ((source.search total).begin steps world).value with
  | finished outcome =>
    rw [begun] at waiting
    cases count <;> cases waiting
  | waiting first =>
    rw [begun] at waiting
    exact pollTimes_waits_lt steady (begin_waits_lt steady begun) waiting

/-- Enough polls are more than all the waits together. -/
theorem polled_of_lt
    (enough : (Event.imports ((source.search total).complete steps world).events).length * waits < count + 1) :
    (source.search total).polled steps count world =
      ⟨.finished ((source.search total).complete steps world).value,
        ((source.search total).complete steps world).world,
        ((source.search total).complete steps world).events⟩ := by
  apply Search.polled_of_enough
  rw [waits_of_steady steady]
  exact Nat.le_of_lt_succ enough

/-- Fewer polls leave it waiting.  Each import that it has started has taken all its waits, except the last,
which has taken at least one. -/
theorem polled_of_le
    (short : count + 1 ≤ (Event.imports ((source.search total).complete steps world).events).length * waits) :
    ∃ attempt, ((source.search total).polled steps count world).value = .waiting attempt ∧
      (Event.imports ((source.search total).polled steps count world).events).length =
        (count + 1 + waits - 1) / waits ∧
      Event.imports ((source.search total).polled steps count world).events <+: steps.map Step.specifier := by
  have left := (source.search total).pollsLeft_polled steps count world
  rw [waits_of_steady steady] at left
  have rejoined := congrArg (fun run => Event.imports (run world).events)
    ((source.search total).polled_complete steps count)
  simp only [Run.bind_apply, Event.imports_append] at rejoined
  have started : Event.imports ((source.search total).polled steps count world).events <+:
      Event.imports ((source.search total).complete steps world).events :=
    rejoined ▸ List.prefix_append _ _
  cases polled : ((source.search total).polled steps count world).value with
  | finished outcome =>
    rw [polled, Search.Progress.pollsLeft] at left
    omega
  | waiting attempt =>
    refine ⟨attempt, rfl, ?_, started.trans (imports_complete_inOrder source total steps world)⟩
    have underWay : attempt.pending.waits < waits := polled_waits_lt steady polled
    rw [polled, pollsLeft_waiting_of_steady steady] at left
    rw [← rejoined, polled, List.length_append, Nat.add_mul] at short left
    -- The imports so far have used up all their waits, except those that the last one has left.
    have taken : (Event.imports ((source.search total).polled steps count world).events).length * waits =
        count + 1 + attempt.pending.waits := by omega
    refine (Nat.div_eq_of_lt_le ?_ ?_).symm
    · omega
    · rw [Nat.add_mul]
      omega

end Polled

end Steady

end Loader
end NodeKeys
