import NodeKeys.Proofs.Uninterrupted

/-!
# Keys without fallback can be made again

Factories that take the seed may keep state and take their time, as long as their answer is a function of the seed.
Nothing is assumed about the others, not even that they leave the state of the former alone.  If the fallback to them
is denied, they are never called, and the verdict on a seed, a verification key or an error, is settled together
with the loader: no world and no other request can change it.

While a request waits for a factory, anything may happen to the state.  So the verdict is not compared between two
runs of the factories, but found to be the only thing that a search among them may end with.
-/

namespace NodeKeys

open Loader

variable {σ : Type}

/-! ## Answers that depend on the seed alone -/

/-- Whatever the states in which it is called and in which it answers, a factory that takes the seed gives the same
answer for the same seed. -/
def Factory.SeedBound (factory : Factory σ) : Prop :=
  factory.takesSeed = true → ∃ answer : Seed → Except FactoryError RawKeyPair,
    ∀ seed state later, ((factory.start (some seed) state).1.answer later).1 = answer seed

/-- All factories that a module exports are bound to the seed. -/
def Module.SeedBound (module : Module σ) : Prop :=
  ∀ name factory, module.factory? name = some factory → factory.SeedBound

/-- What becomes of an answer does not depend on the world. -/
theorem Candidate.value_consider (candidate : Candidate σ) (answer : Option (Except FactoryError RawKeyPair))
    (world other : World σ) : (candidate.consider answer world).value = (candidate.consider answer other).value := by
  rcases answer with _ | answer
  · rfl
  · rw [consider_some]
    cases candidate.verdict answer <;> rfl

namespace CandidateChain

/-- Without fallback, a candidate that is bound to the seed can decide one thing only. -/
theorem decided_of_deny {candidate : Candidate σ} (bound : candidate.factory.SeedBound) (seed : Seed)
    {one other : Option Derivation} (first : (search .deny seed).MayDecide candidate one)
    (second : (search .deny seed).MayDecide candidate other) : one = other := by
  suffices settled : ∃ answer, ∀ {found}, (search .deny seed).MayDecide candidate found →
      ∃ world, (candidate.consider answer world).value = found by
    rcases settled with ⟨answer, decides⟩
    rcases decides first with ⟨here, rfl⟩
    rcases decides second with ⟨there, rfl⟩
    exact candidate.value_consider answer here there
  cases skipped : FallbackPolicy.deny.skips candidate with
  | true =>
    refine ⟨none, ?_⟩
    rintro found ⟨before, after, decided⟩
    have started : candidate.start .deny seed = pure (.ready none) := by
      rw [Candidate.start, if_pos skipped]
    change ((search .deny seed).conclude candidate (candidate.start .deny seed before).value after).value = _
      at decided
    rw [started] at decided
    exact ⟨_, decided⟩
  | false =>
    have takes := takesSeed_of_deny skipped
    rcases bound takes with ⟨answer, answers⟩
    refine ⟨some (answer seed), ?_⟩
    rintro found ⟨before, after, decided⟩
    have given : candidate.argument seed = some seed := by rw [Candidate.argument, if_pos takes]
    have started : (candidate.start .deny seed before).value =
        (candidate.factory.start (some seed) before.state).1.map some := by
      rw [Candidate.start, if_neg (ne_true_of_eq_false skipped), given]
      rfl
    change ((search .deny seed).conclude candidate (candidate.start .deny seed before).value after).value = _
      at decided
    rw [started] at decided
    change (candidate.consider (some ((candidate.factory.start (some seed) before.state).1.answer
      after.state).1) _).value = _ at decided
    rw [answers] at decided
    exact ⟨_, decided⟩

/-- Without fallback, the factories of an implementation can end in one way only. -/
theorem ended_of_deny {handle : Module σ} (bound : handle.SeedBound) {seed : Seed}
    {result : Except KeygenError Derivation}
    (leads : (search .deny seed).MayLead (resolveCandidates handle) (.finished result)) (world : World σ) :
    result = ((forHandle handle .deny).derive seed world).value :=
  leads.unique
    (fun candidate member => decided_of_deny
      (bound candidate.name candidate.factory (mem_candidatesNamed.mp member).2) seed)
    (Search.mayLead_complete _ _ world)

end CandidateChain

/-- The keys to a verification key that was derived from the seed. -/
def SigningKeys.seeded (text verify : String) : SigningKeys :=
  ⟨text, verify, true⟩

/-- The order of a key generation without fallback. -/
def Order.denied (seed : Seed) (text : String) : Order :=
  ⟨.deny, seed, some text⟩

/-- Without fallback, an implementation has one verdict on a seed: a verification key or an error. -/
theorem Order.replied_of_deny {handle : Module σ} (bound : handle.SeedBound) (seed : Seed) (world : World σ) :
    ∃ verdict : Except KeygenError String, ∀ text result later,
      (CandidateChain.search .deny seed).MayLead (resolveCandidates handle) (.finished result) →
      ((Order.denied seed text).reply result later : Ending σ (Reply σ)).value =
        .generated (verdict.map (SigningKeys.seeded text)) := by
  have only {result : Except KeygenError Derivation}
      (leads : (CandidateChain.search .deny seed).MayLead (resolveCandidates handle) (.finished result)) :=
    CandidateChain.ended_of_deny bound leads world
  cases derived : ((CandidateChain.forHandle handle .deny).derive seed world).value with
  | error error =>
    refine ⟨.error error, fun text result later leads => ?_⟩
    rw [only leads, derived]
    rfl
  | ok derivation =>
    refine ⟨derivation.raw.extractPublicKey.map Base64Url.encode, fun text result later leads => ?_⟩
    rw [only leads, derived]
    change Reply.generated (publish text derivation later).value = _
    rw [value_publish, CandidateChain.deterministic_of_deny derived]
    cases derivation.raw.extractPublicKey <;> rfl

/-- Whatever a loader keeps, it settles the verdict on every seed. -/
theorem Phase.Follows.replied_of_deny {outcome : Outcome σ}
    (bound : ∀ handle, outcome = .ok handle → handle.module.SeedBound) (seed : Seed) (world : World σ) :
    ∃ verdict : Except KeygenError String, ∀ {text reply},
      (Phase.returned reply).Follows (some (.denied seed text)) outcome →
      reply = .generated (verdict.map (SigningKeys.seeded text)) := by
  cases outcome with
  | error error =>
    refine ⟨.error error, fun follows => ?_⟩
    cases follows with
    | unloaded later replies => exact replies
  | ok handle =>
    rcases Order.replied_of_deny (bound handle rfl) seed world with ⟨verdict, decided⟩
    refine ⟨verdict, fun follows => ?_⟩
    cases follows with
    | tried leads later replies => exact replies.trans (decided _ _ later leads)

namespace Requests

/-! ## In any run -/

/-- A key generation without fallback was requested on this loader and has returned this. -/
structure GeneratedWithoutFallback (requests : Requests σ) (number : Nat) (id : LoaderId)
    (text? : Option String) (entropy : Entropy) (result : Except KeygenError SigningKeys) : Prop where
  made : requests.loaderOf? number = some id
  returned : requests.entries[number]? =
    some ⟨.generate .deny text? entropy, .returned (.generated result)⟩

/-- A key generation that gave keys without being given a seed has drawn one. -/
theorem GeneratedWithoutFallback.drawn {requests : Requests σ} {number : Nat} {id : LoaderId}
    {entropy : Entropy} {keys : SigningKeys}
    (generated : requests.GeneratedWithoutFallback number id none entropy (.ok keys))
    (sound : requests.Sound) : ∃ drawn : Seed, requestedSeed none entropy = .ok (drawn, drawn.text) := by
  cases sound.accounted generated.returned with
  | follows accepted =>
    rcases map_eq_ok accepted with ⟨⟨seed, text⟩, requested, _⟩
    rcases requestedSeed_eq_ok_iff.mp requested with ⟨_, texts, readable⟩
    rcases Entropy.textOr_none_eq_ok_iff.mp texts with ⟨random, _, rfl⟩
    cases random.ofText_text.symm.trans readable
    exact ⟨seed, requested⟩

section Readable

variable {requests : Requests σ} {id : LoaderId} {text? : Option String} {entropy : Entropy} {seed : Seed}
  {text : String} {result : Except KeygenError SigningKeys}
  (readable : requestedSeed text? entropy = .ok (seed, text))
include readable

theorem order_of_readable : (Purpose.generate .deny text? entropy).order = .ok (some (.denied seed text)) := by
  rw [Purpose.order, readable]
  rfl

/-- A key generation whose seed is readable has its result from what its loader keeps. -/
theorem GeneratedWithoutFallback.follows {number : Nat}
    (generated : requests.GeneratedWithoutFallback number id text? entropy result) (sound : requests.Sound) :
    ∃ outcome, (requests.pool.loaders id).cell = some outcome ∧
      (Phase.returned (.generated result)).Follows (some (.denied seed text)) outcome :=
  (sound.accounted generated.returned).follows_of_returned (order_of_readable readable) generated.made

/-- A key generation that is requested on a settled loader returns within the polls that its factories need. -/
theorem generated_of_settled (aligned : requests.Aligned) {outcome : Outcome σ}
    (settled : (requests.pool.loaders id).cell = some outcome) {polls : Nat} {world : World σ}
    (enough : Order.waits (some (.denied seed text)) outcome world < polls)
    (replies : (Order.conclude (some (.denied seed text)) outcome world).value = .generated result) :
    ((requests.make id (.generate .deny text? entropy)).pollTimes requests.entries.length polls
      world).value.GeneratedWithoutFallback requests.entries.length id text? entropy result := by
  cases polls with
  | zero => exact absurd enough (Nat.not_lt_zero _)
  | succ count =>
    rw [pollTimes_make_of_settled aligned settled (order_of_readable readable) (Nat.le_of_lt_succ enough),
      Run.bind_apply, Run.pure_apply, replies]
    have called := call_make aligned id (.generate .deny text? entropy)
    refine ⟨?_, entry_setPhase_self (requests.entry_make id _) _⟩
    exact congrArg (Option.map Call.loader) (Pool.call_setStage_self called _)

end Readable

/-- A key generation without fallback that is made now and polled more often than its factories make it wait, with
nothing in between, returns this. -/
def WouldGenerate (requests : Requests σ) (world : World σ) (id : LoaderId) (text? : Option String)
    (entropy : Entropy) (result : Except KeygenError SigningKeys) : Prop :=
  ∃ seed text outcome, requestedSeed text? entropy = .ok (seed, text) ∧
    (requests.pool.loaders id).cell = some outcome ∧
    ∀ polls, Order.waits (some (.denied seed text)) outcome world < polls →
      let asked := (requests.make id (.generate .deny text? entropy)).pollTimes requests.entries.length polls world
      asked.value.GeneratedWithoutFallback requests.entries.length id text? entropy result

/-- From now on, whatever is done in between, a key generation without fallback for this seed answers with
this verdict: the requests that have returned by then, and any further one when it has been polled often enough. -/
def VerdictStands (requests : Requests σ) (world : World σ) (id : LoaderId) (seed : Seed)
    (verdict : Except KeygenError String) : Prop :=
  ∀ later text? entropy text, requestedSeed text? entropy = .ok (seed, text) →
    let afterwards := requests.moves later world
    (∀ number result, afterwards.value.GeneratedWithoutFallback number id text? entropy result →
      result = verdict.map (SigningKeys.seeded text)) ∧
    afterwards.value.WouldGenerate afterwards.world id text? entropy (verdict.map (SigningKeys.seeded text))

theorem verdictStands_of_kept {requests : Requests σ} (sound : requests.Sound)
    (aligned : requests.Aligned) {id : LoaderId} {outcome : Outcome σ}
    (kept : (requests.pool.loaders id).cell = some outcome) {seed : Seed}
    {verdict : Except KeygenError String}
    (decided : ∀ {text reply}, (Phase.returned reply).Follows (some (.denied seed text)) outcome →
      reply = .generated (verdict.map (SigningKeys.seeded text)))
    (world : World σ) : requests.VerdictStands world id seed verdict := by
  intro later text? entropy text readable afterwards
  have keptLater : (afterwards.value.pool.loaders id).cell = some outcome :=
    (becomes_moves sound later world id).keeps kept
  constructor
  · intro number result generated
    rcases generated.follows readable (sound.moves later world) with ⟨same, keptSame, follows⟩
    cases keptLater.symm.trans keptSame
    exact Reply.generated.inj (decided follows)
  · refine ⟨seed, text, outcome, readable, keptLater, fun polls enough => ?_⟩
    exact generated_of_settled readable (aligned.moves later world) keptLater enough
      (decided (Order.follows_conclude _ outcome _))

/-- Take any run on any loaders, and let the factories of one loader's implementation that take the seed be
bound to it.  As soon as one key generation without fallback has returned on that loader, its verdict stands:
all such requests for the same seed, earlier or later and in whatever spelling, give the same verification
key, derived from the seed, or the same error.  In particular the seed that a request without one was
given, handed in as text, gives the same keys. -/
theorem denied_fallback_is_reproducible (loaders : Loaders σ) (moves : List (Move σ)) (world : World σ)
    (id : LoaderId)
    (bound : ∀ handle,
      (((start loaders).moves moves world).value.pool.loaders id).cell = some (.ok handle) →
      handle.module.SeedBound) :
    let reached := (start loaders).moves moves world
    (∀ number text? entropy seed text result,
      reached.value.GeneratedWithoutFallback number id text? entropy result →
      requestedSeed text? entropy = .ok (seed, text) →
      ∃ verdict, result = verdict.map (SigningKeys.seeded text) ∧
        reached.value.VerdictStands reached.world id seed verdict) ∧
    ∀ number entropy keys,
      reached.value.GeneratedWithoutFallback number id none entropy (.ok keys) →
      ∀ later other, other.probe = .ok () →
        let afterwards := reached.value.moves later reached.world
        afterwards.value.WouldGenerate afterwards.world id (some keys.seed) other (.ok keys) := by
  intro reached
  have sound : reached.value.Sound := (sound_start loaders).moves moves world
  have aligned : reached.value.Aligned := (aligned_start loaders).moves moves world
  have stands : ∀ number text? entropy seed text result,
      reached.value.GeneratedWithoutFallback number id text? entropy result →
      requestedSeed text? entropy = .ok (seed, text) →
      ∃ verdict, result = verdict.map (SigningKeys.seeded text) ∧
        reached.value.VerdictStands reached.world id seed verdict := by
    intro number text? entropy seed text result generated readable
    rcases generated.follows readable sound with ⟨outcome, kept, follows⟩
    have boundOutcome : ∀ handle, outcome = .ok handle → handle.module.SeedBound :=
      fun handle same => bound handle (same ▸ kept)
    rcases Phase.Follows.replied_of_deny boundOutcome seed world with ⟨verdict, decided⟩
    exact ⟨verdict, Reply.generated.inj (decided follows),
      verdictStands_of_kept sound aligned kept decided reached.world⟩
  refine ⟨stands, ?_⟩
  intro number entropy keys generated later other available
  rcases generated.drawn sound with ⟨drawn, requested⟩
  rcases stands number none entropy drawn drawn.text (.ok keys) generated requested with
    ⟨verdict, result, verdictStands⟩
  cases verdict with
  | error error => cases result
  | ok verify =>
    cases result
    exact (verdictStands later (some drawn.text) other drawn.text
      (requestedSeed_some available drawn.ofText_text)).2

/-- An implementation that counts its calls, takes its time, and gives the seed away as the public key. -/
def echo : Module Nat :=
  (Module.empty "echo").withFactory "keygen_from_seed"
    { arity := 1
      start := fun seed? calls =>
        (⟨1, fun later => ((seed?.map fun seed => .ok (.bytes seed.bytes)).getD (.error ⟨"no seed"⟩), later)⟩,
          calls + 1) }

theorem seedBound_echo : echo.SeedBound := by
  intro name factory exported takes
  by_cases same : "keygen_from_seed" = name
  · subst same
    cases exported
    exact ⟨fun seed => .ok (.bytes seed.bytes), fun _ _ _ => rfl⟩
  · have unknown : echo.get? name = none := Table.find?_insert_of_ne (Ne.symm same) _ []
    rw [Module.factory?, unknown] at exported
    cases exported

/-- Keys for a random seed are requested from it.  While the factory has not answered, a load is made and polled.
After one more load the keys are requested again. -/
theorem denied_fallback_is_reproducible_echo :
    let loader : Loader Nat :=
      { source := { start := fun _ calls => (⟨0, fun calls => (.ok (some echo), calls)⟩, calls) },
        steps := [⟨"echo", .asIs⟩] }
    let seed : Seed := ⟨List.replicate 32 7, rfl⟩
    let entropy : Entropy := .giving seed
    let keys := SigningKeys.seeded seed.text (Base64Url.encode seed.bytes)
    let reached := (start fun _ => loader).moves
      [.make .processWide (.generate .deny none entropy), .poll 0, .make .processWide .load, .poll 1, .poll 0]
      ⟨0, 0⟩
    let afterwards := reached.value.moves [.make .processWide .load, .poll 2] reached.world
    reached.value.GeneratedWithoutFallback 0 .processWide none entropy (.ok keys) ∧
    afterwards.value.WouldGenerate afterwards.world .processWide (some keys.seed) entropy (.ok keys) := by
  intro loader seed entropy keys reached afterwards
  have bound : ∀ handle, (reached.value.pool.loaders .processWide).cell = some (.ok handle) →
      handle.module.SeedBound := by
    intro handle kept
    cases kept
    exact seedBound_echo
  have generated : reached.value.GeneratedWithoutFallback 0 .processWide none entropy (.ok keys) :=
    ⟨rfl, rfl⟩
  exact ⟨generated, (denied_fallback_is_reproducible _ _ _ .processWide bound).2 0 entropy keys generated
    [.make .processWide .load, .poll 2] entropy rfl⟩

end Requests
end NodeKeys
