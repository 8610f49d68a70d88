import Mathlib.Data.List.Induction
import NodeKeys.Builder

/-!
# Which setters of a builder count

Setters may be called in any order and any number of times.  Each of them is about the seed, the policy or the
loader, and two of them are about the policy.  Of the calls that are about the same part the last one counts, however
many calls about other parts come after it, and a part that no call is about stays as it is in a new builder.

A request is then one by a generator with these parts.  It is the same run and not only the same answer, so
imports, calls of factories, log lines and what becomes of the loaders agree too.
-/

namespace NodeKeys

variable {σ : Type}

namespace Builder

/-- A call of a setter. -/
inductive Setter where
  | seed (text : String)
  | policy (policy : FallbackPolicy)
  | settings (settings : Settings)
  | loader (loader : LoaderId)

def set (builder : Builder) : Setter → Builder
  | .seed text => builder.withSeed text
  | .policy policy => builder.withPolicy policy
  | .settings settings => builder.withSettings settings
  | .loader loader => builder.withLoader loader

/-- A new builder after these calls, one after the other. -/
def configured (setters : List Setter) : Builder :=
  setters.foldl set {}

namespace Setter

def seed? : Setter → Option String
  | .seed text => some text
  | _ => none

/-- The policy that is set, by itself or by settings. -/
def policy? : Setter → Option FallbackPolicy
  | .policy chosen => some chosen
  | .settings given => some (if given.allowUnseededFallback then .allow else .deny)
  | _ => none

def loader? : Setter → Option LoaderId
  | .loader chosen => some chosen
  | _ => none

end Setter

/-- What the last of these calls that is about a part says of it. -/
def lastSet {α : Type} (about : Setter → Option α) (setters : List Setter) : Option α :=
  (setters.filterMap about).getLast?

theorem lastSet_concat {α : Type} (about : Setter → Option α) (setters : List Setter) (setter : Setter) :
    lastSet about (setters ++ [setter]) = (about setter).or (lastSet about setters) := by
  rw [lastSet, List.filterMap_append, List.getLast?_append]
  cases said : about setter <;> simp [said, lastSet]

/-- A call changes the part that it is about and leaves the others alone. -/
theorem set_eq (builder : Builder) (setter : Setter) :
    builder.set setter = ⟨setter.seed?.or builder.seed, setter.policy?.getD builder.policy,
      setter.loader?.getD builder.loader⟩ := by
  cases setter <;> rfl

theorem configured_concat (setters : List Setter) (setter : Setter) :
    configured (setters ++ [setter]) = (configured setters).set setter :=
  List.foldl_append

/-- Of every part the last call that is about it decides. -/
theorem configured_eq (setters : List Setter) :
    configured setters = ⟨lastSet Setter.seed? setters, (lastSet Setter.policy? setters).getD .allow,
      (lastSet Setter.loader? setters).getD .processWide⟩ := by
  induction setters using List.reverseRecOn with
  | nil => rfl
  | append_singleton setters setter inductionHypothesis =>
    rw [configured_concat, set_eq, inductionHypothesis, lastSet_concat, lastSet_concat, lastSet_concat,
      Option.getD_or, Option.getD_or]

end Builder

open Builder

/-- Take any calls of setters on a new builder.  A request by the builder is the same run as one by a generator over
the loader that was set last, or the process-wide one, under the policy that was set last, by itself or by settings,
or else under the one that allows the fallback, for the seed that was set last, if any was.  With a handler the same
happens, and whatever the result is, an error or keys, the handler has been applied to it. -/
theorem requests_follow_the_last_setters (setters : List Setter) :
    let loader := (lastSet Setter.loader? setters).getD .processWide
    let policy := (lastSet Setter.policy? setters).getD .allow
    let seed? := lastSet Setter.seed? setters
    ∀ (entropy : Entropy) (loaders : Loaders σ),
      let request := ((Generator.over loader).withPolicy policy).generate seed? entropy loaders
      (configured setters).generate entropy loaders = request ∧
      ∀ {τ : Type} (handler : Except KeygenError SigningKeys → τ) (world : World σ),
        (configured setters).generateThen handler entropy loaders world =
          ⟨(handler (request world).value.1, (request world).value.2), (request world).world,
            (request world).events⟩ := by
  intro loader policy seed? entropy loaders request
  have asked : (configured setters).generate entropy loaders = request := by
    rw [configured_eq]
    rfl
  refine ⟨asked, fun handler world => ?_⟩
  rw [generateThen_apply, asked]

/-- Neither the seed nor the policy is lost when a loader is set. -/
example : configured [.seed "AA", .settings ⟨false⟩, .loader (.numbered 3), .seed "AB"] =
    ⟨some "AB", .deny, .numbered 3⟩ := rfl

end NodeKeys
