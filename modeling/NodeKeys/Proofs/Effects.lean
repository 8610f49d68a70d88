import NodeKeys.Proofs.Derivation
import NodeKeys.Requests

/-!
# What the stages can show

An attempt starts imports and logs what becomes of its steps.  A derivation calls factories and logs, and the
extraction after it only logs.  So an attempt never calls a factory, and nothing that follows a load ever
starts an import.  Both are said of the events of a run from any world, for whole stages at a time and for their
single polls.
-/

namespace NodeKeys

open Loader

variable {σ α β : Type}

/-- Whether the line is about a loader step. -/
def LogLine.ofStep : LogLine → Bool
  | stepEmpty _ | stepFailed _ _ | stepUnusable _ | resolved _ _ => true
  | _ => false

namespace Event

/-- Whether a loader step may show this. -/
def ofStep : Event → Bool
  | imported _ => true
  | logged line => line.ofStep
  | called _ _ | written _ => false

/-- Whether an attempt to resolve an implementation may show this. -/
def ofAttempt : Event → Bool
  | imported _ | logged _ => true
  | called _ _ | written _ => false

/-- Whether a derivation or what follows it may show this. -/
def ofDerivation : Event → Bool
  | called _ _ | logged _ => true
  | imported _ | written _ => false

theorem ofAttempt_of_ofStep {event : Event} (step : event.ofStep) : event.ofAttempt := by
  cases event <;> first | rfl | cases step

theorem calls_eq_nil {events : List Event} (attempted : ∀ event ∈ events, event.ofAttempt) :
    calls events = [] := by
  unfold calls
  rw [List.filterMap_eq_nil_iff]
  intro event member
  have kind := attempted event member
  cases event with
  | called factory argument => cases kind
  | imported specifier => rfl
  | logged line => rfl
  | written text => rfl

theorem imports_eq_nil {events : List Event} (derived : ∀ event ∈ events, event.ofDerivation) :
    imports events = [] := by
  unfold imports
  rw [List.filterMap_eq_nil_iff]
  intro event member
  have kind := derived event member
  cases event with
  | imported specifier => cases kind
  | called factory argument => rfl
  | logged line => rfl
  | written text => rfl

end Event

namespace Run

/-- From every world, the run shows only events of this kind. -/
def Shows (kind : Event → Bool) (run : Run σ α) : Prop :=
  ∀ world, ∀ event ∈ (run world).events, kind event

variable {kind : Event → Bool}

/-- What shows events of one kind shows events of a wider kind. -/
theorem Shows.mono {narrow wide : Event → Bool} {run : Run σ α} (shown : Shows narrow run)
    (widens : ∀ {event : Event}, narrow event → wide event) : Shows wide run :=
  fun world event member => widens (shown world event member)

theorem shows_pure (value : α) : Shows kind (pure value : Run σ α) :=
  fun _ _ impossible => nomatch impossible

theorem shows_bind {first : Run σ α} {next : α → Run σ β} (before : Shows kind first)
    (after : ∀ value, Shows kind (next value)) : Shows kind (first >>= next) := by
  intro world event member
  rw [bind_apply] at member
  rcases List.mem_append.mp member with early | late
  · exact before world event early
  · exact after _ _ event late

theorem shows_emit {event : Event} (allowed : kind event) : Shows kind (emit event : Run σ Unit) := by
  intro world shown member
  rw [List.mem_singleton.mp member]
  exact allowed

theorem shows_act (action : σ → α × σ) : Shows kind (act action) :=
  fun _ _ impossible => nomatch impossible

end Run

open Run

/-! ## Searches -/

namespace Search

variable {ι : Type} {kind : Event → Bool} {search : Search σ ι α β}
  (started : ∀ item, Shows kind (search.start item))
  (considered : ∀ item answer, Shows kind (search.consider item answer))

include considered in
theorem shows_conclude (item : ι) (pending : Pending σ α) : Shows kind (search.conclude item pending) :=
  shows_bind (shows_act _) fun answer => considered item answer

include started considered

/-- A search shows what its starts and its decisions show. -/
theorem shows_complete (items : List ι) : Shows kind (search.complete items) := by
  induction items with
  | nil => exact shows_pure _
  | cons item rest inductionHypothesis =>
    refine shows_bind (started item) fun pending => ?_
    refine shows_bind (shows_conclude considered item pending) fun decided => ?_
    cases decided with
    | some found => exact shows_pure _
    | none => exact inductionHypothesis

theorem shows_begin (items : List ι) : Shows kind (search.begin items) := by
  induction items with
  | nil => exact shows_pure _
  | cons item rest inductionHypothesis =>
    refine shows_bind (started item) fun pending => ?_
    cases pending.waits with
    | succ waits => exact shows_pure _
    | zero =>
      refine shows_bind (shows_conclude considered item pending) fun decided => ?_
      cases decided with
      | some found => exact shows_pure _
      | none => exact inductionHypothesis

theorem shows_poll (attempt : Attempt σ ι α) : Shows kind (search.poll attempt) := by
  unfold poll
  split
  · exact shows_pure _
  · refine shows_bind (shows_conclude considered _ _) fun decided => ?_
    cases decided with
    | some found => exact shows_pure _
    | none => exact shows_begin started considered _

end Search

/-! ## Attempts -/

namespace Loader

theorem shows_consider (step : Step) (answer : Answer σ) :
    Shows Event.ofStep (consider step answer) := by
  unfold consider
  split
  · exact shows_bind (shows_emit rfl) fun _ => shows_pure _
  · exact shows_bind (shows_emit rfl) fun _ => shows_pure _
  · split
    · exact shows_bind (shows_emit rfl) fun _ => shows_pure _
    · refine shows_bind (shows_emit rfl) fun _ => shows_bind ?_ fun _ => shows_pure _
      exact fun _ _ impossible => nomatch impossible

theorem shows_attempt (loader : Loader σ) : Shows Event.ofStep loader.attempt :=
  Search.shows_complete (fun _ => shows_bind (shows_emit rfl) fun _ => shows_act _) shows_consider _

theorem shows_load_steps (loader : Loader σ) : Shows Event.ofStep loader.load := by
  unfold load
  split
  · exact shows_pure _
  · exact shows_bind loader.shows_attempt fun _ => shows_pure _

theorem shows_load (loader : Loader σ) : Shows Event.ofAttempt loader.load :=
  loader.shows_load_steps.mono Event.ofAttempt_of_ofStep

end Loader

/-! ## Derivations and what follows them -/

theorem Candidate.shows_start (policy : FallbackPolicy) (seed : Seed) (candidate : Candidate σ) :
    Shows Event.ofDerivation (candidate.start policy seed) := by
  unfold start
  split
  · exact shows_pure _
  · exact shows_bind (shows_emit rfl) fun _ => shows_bind (shows_act _) fun _ => shows_pure _

theorem Candidate.shows_consider (candidate : Candidate σ) (answer : Option (Except FactoryError RawKeyPair)) :
    Shows Event.ofDerivation (candidate.consider answer) := by
  rcases answer with _ | answer
  · exact shows_bind (shows_emit rfl) fun _ => shows_pure _
  · rw [consider_some]
    cases candidate.verdict answer with
    | error line => exact shows_bind (shows_emit rfl) fun _ => shows_pure _
    | ok derivation =>
      refine shows_bind ?_ fun _ => shows_pure _
      unfold Derivation.announce
      split
      · exact shows_pure _
      · exact shows_emit rfl

theorem CandidateChain.shows_deriveFrom (policy : FallbackPolicy) (seed : Seed)
    (candidates : List (Candidate σ)) :
    Shows Event.ofDerivation (deriveFrom policy seed candidates) :=
  Search.shows_complete (Candidate.shows_start policy seed) Candidate.shows_consider candidates

theorem shows_publish (seedText : String) (derivation : Derivation) :
    Shows Event.ofDerivation (publish seedText derivation : Run σ _) := by
  unfold publish
  split
  · exact shows_pure _
  · exact shows_bind (shows_emit rfl) fun _ => shows_bind (shows_emit rfl) fun _ => shows_pure _

theorem shows_generateOn (handle : Module σ) (policy : FallbackPolicy) (seed : Seed)
    (seedText : String) : Shows Event.ofDerivation (generateOn handle policy seed seedText) := by
  refine shows_bind (CandidateChain.shows_deriveFrom _ _ _) fun derived => ?_
  cases derived with
  | error error => exact shows_pure _
  | ok derivation => exact shows_publish seedText derivation

namespace Order

theorem shows_reply (order : Order) (result : Except KeygenError Derivation) :
    Shows Event.ofDerivation (order.reply result : Run σ (Reply σ)) := by
  unfold reply
  split
  · exact shows_pure _
  · split
    · exact shows_pure _
    · exact shows_bind (shows_publish _ _) fun _ => shows_pure _

theorem shows_proceed (order : Order) (progress : CandidateChain.Progress σ) :
    Shows Event.ofDerivation (order.proceed progress) := by
  cases progress with
  | waiting attempt => exact shows_pure _
  | finished result => exact shows_bind (order.shows_reply result) fun _ => shows_pure _

/-- What a request does with the outcome of its loader starts no import. -/
theorem shows_begin (order? : Option Order) (outcome : Outcome σ) :
    Shows Event.ofDerivation (begin order? outcome) := by
  unfold begin
  split
  · exact shows_pure _
  · split
    · exact shows_bind (shows_reply _ _) fun _ => shows_pure _
    · refine shows_bind (Search.shows_begin ?_ Candidate.shows_consider _) fun _ => shows_proceed _ _
      exact Candidate.shows_start _ _

/-- Nor does any later poll. -/
theorem shows_poll (order : Order) (attempt : CandidateChain.Attempt σ) :
    Shows Event.ofDerivation (order.search.poll attempt >>= order.proceed) := by
  refine shows_bind (Search.shows_poll ?_ Candidate.shows_consider _) order.shows_proceed
  exact Candidate.shows_start _ _

end Order
end NodeKeys
