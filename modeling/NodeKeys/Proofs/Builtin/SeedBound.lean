import NodeKeys.Proofs.Builtin
import NodeKeys.Proofs.Requests

/-!
# Keys of seeds, whatever else is under way

Any number of requests may be under way on a loader over the packages that come with the program, and they may be
polled and dropped in any order, among requests on other loaders.  None of this leads the loader anywhere else
than to the implementation that derives key pairs from seeds.

The reason is that these packages answer at once, and so do the factories of the implementation.  The poll that
begins an attempt also ends it, so there is never an attempt to be lost or taken over, and what is kept is what the
first step led to.  `Serves` says so of a pool.  Nor does a request ever wait for a factory: it returns in the very
poll in which its call does.
-/

namespace NodeKeys
namespace Builtin

open Loader

variable {σ : Type} {draw : σ → Seed × σ} {id : LoaderId}

/-! ## Attempts that never wait -/

theorem immediate_of_isBuiltin {loader : Loader σ} (builtin : IsBuiltin draw loader) (steps : List Step) :
    loader.search.Immediate steps := by
  intro step _ world
  rw [search, builtin.source]
  rfl

theorem begin_of_isBuiltin {loader : Loader σ} (builtin : IsBuiltin draw loader) (world : World σ) :
    loader.search.begin loader.steps world =
      ⟨.finished (.ok ⟨world.handles, implementation⟩), { world with handles := world.handles + 1 },
        resolution⟩ := by
  rw [Search.begin_of_immediate (immediate_of_isBuiltin builtin _)]
  change Ending.mk (Search.Progress.finished (loader.attempt world).value) (loader.attempt world).world
    (loader.attempt world).events = _
  rw [attempt_apply_of_isBuiltin builtin]

theorem immediate_implementation (policy : FallbackPolicy) (seed : Seed) :
    (CandidateChain.search policy seed).Immediate (resolveCandidates (implementation : Module σ)) := by
  intro candidate member world
  rw [resolveCandidates_implementation] at member
  rcases List.mem_cons.mp member with rfl | later
  · rfl
  · rw [List.mem_singleton.mp later]
    rfl

theorem begin_implementation (policy : FallbackPolicy) (seed : Seed) (world : World σ) :
    (CandidateChain.search policy seed).begin (resolveCandidates implementation) world =
      ⟨.finished (.ok ⟨keyPairOf seed, "keygen", true⟩), world, [.called "keygen" (some seed)]⟩ := by
  rw [Search.begin_of_immediate (immediate_implementation policy seed)]
  have derived := derive_implementation policy seed world
  change (CandidateChain.search policy seed).complete (resolveCandidates implementation) world = _ at derived
  rw [derived]

theorem value_conclude_keygen (policy : FallbackPolicy) (seed : Seed) (before after : World σ) :
    let search : Search σ (Candidate σ) _ _ := CandidateChain.search policy seed
    let candidate : Candidate σ := ⟨"keygen", keygen⟩
    (search.conclude candidate (search.start candidate before).value after).value =
      some ⟨keyPairOf seed, "keygen", true⟩ := by
  intro search candidate
  change (candidate.consider (some (.ok (keyPairOf seed))) after).value = _
  rw [Candidate.consider, isEmpty_keyPairOf]
  rfl

/-- The preferred factory never leaves anything to the other one. -/
theorem result_of_mayLead {policy : FallbackPolicy} {seed : Seed} {result : Except KeygenError Derivation}
    (leads : (CandidateChain.search policy seed).MayLead (resolveCandidates (implementation : Module σ))
      (.finished result)) : result = .ok ⟨keyPairOf seed, "keygen", true⟩ := by
  have decided {found : Option Derivation}
      (decides : (CandidateChain.search policy seed).MayDecide (Candidate.mk "keygen" keygen : Candidate σ)
        found) : found = some ⟨keyPairOf seed, "keygen", true⟩ := by
    rcases decides with ⟨before, after, rfl⟩
    exact value_conclude_keygen policy seed before after
  rw [resolveCandidates_implementation] at leads
  cases leads with
  | found decides => exact congrArg Except.ok (Option.some.inj (decided decides))
  | passed passes => cases decided passes

/-- The loader is one over these packages, and nobody carries out an attempt on it. -/
structure Serves (draw : σ → Seed × σ) (id : LoaderId) (pool : Pool σ) : Prop where
  builtin : IsBuiltin draw (pool.loaders id)
  idle : ∀ (number : Nat) (attempt : Attempt σ), pool.calls[number]? ≠ some ⟨id, .running attempt⟩

namespace Serves

variable {pool : Pool σ}

theorem openCall (serves : Serves draw id pool) (other : LoaderId) : Serves draw id (pool.openCall other) where
  builtin := serves.builtin
  idle := by
    intro number attempt found
    rcases Pool.call_openCall_cases found with impossible | earlier
    · cases impossible
    · exact serves.idle number attempt earlier

/-- A call may come to any stage but that of an attempt on this loader. -/
theorem setStage (serves : Serves draw id pool) {number : Nat} {stage : Stage σ}
    (allowed : ∀ old, pool.calls[number]? = some ⟨id, old⟩ → stage.isRunning = false) :
    Serves draw id (pool.setStage number stage) where
  builtin := serves.builtin
  idle := by
    intro other attempt found
    rcases Pool.call_setStage_cases found with ⟨_, running, old, own⟩ | ⟨_, earlier⟩
    · have quiet := allowed old own
      rw [← running] at quiet
      cases quiet
    · exact serves.idle other attempt earlier

theorem drop (serves : Serves draw id pool) (number : Nat) : Serves draw id (pool.drop number) := by
  unfold Pool.drop
  split
  · exact serves.setStage fun _ _ => rfl
  · exact serves.setStage fun _ _ => rfl
  · exact serves

theorem settle_of_ne (serves : Serves draw id pool) {other : LoaderId} (different : id ≠ other)
    (outcome : Outcome σ) : Serves draw id (pool.settle other outcome) where
  builtin := by
    rw [pool.loaders_settle_of_ne outcome different]
    exact serves.builtin
  idle := serves.idle

theorem settle_self (serves : Serves draw id pool) (stamp : Nat) :
    Serves draw id (pool.settle id (.ok ⟨stamp, implementation⟩)) where
  builtin := by
    rw [pool.loaders_settle_self]
    refine ⟨serves.builtin.source, serves.builtin.steps, fun outcome kept => ⟨stamp, ?_⟩⟩
    exact (Option.some.inj kept).symm
  idle := serves.idle

/-- A poll keeps this up, because it cannot leave an attempt behind. -/
theorem poll (serves : Serves draw id pool) (number : Nat) (world : World σ) :
    Serves draw id (pool.poll number world).value := by
  rcases pool.poll_cases number world with unchanged | ⟨other, outcome, _, _, finished⟩ |
    ⟨other, run, drives, driven⟩
  · rw [unchanged]
    exact serves
  · rw [finished]
    exact serves.setStage fun _ _ => rfl
  · rw [driven]
    by_cases same : id = other
    · subst same
      cases drives with
      | continues running => exact absurd running (serves.idle number _)
      | begins =>
        rw [begin_of_isBuiltin serves.builtin]
        exact (serves.settle_self world.handles).setStage fun _ _ => rfl
    · -- The call is one of another loader, whatever stage it comes to.
      have foreign (old : Stage σ) : pool.calls[number]? ≠ some ⟨id, old⟩ := by
        intro found
        rcases drives.call_eq with ⟨stage, present⟩
        rw [present] at found
        cases found
        exact same rfl
      cases (run world).value with
      | waiting attempt => exact serves.setStage fun old own => absurd own (foreign old)
      | finished outcome =>
        exact (serves.settle_of_ne same outcome).setStage fun old own => absurd own (foreign old)

theorem moves {requests : Requests σ} (serves : Serves draw id requests.pool)
    (moves : List (Requests.Move σ)) (world : World σ) :
    Serves draw id (requests.moves moves world).value.pool :=
  Requests.pool_moves (fun _ other serves => serves.openCall other)
    (fun _ number world serves => serves.poll number world) (fun _ number serves => serves.drop number)
    serves moves world

theorem start (draw : σ → Seed × σ) (id : LoaderId) (others : Loaders σ) :
    Serves draw id (Requests.start (others.set id (Builtin.loader draw))).pool where
  builtin := by
    have own : (Requests.start (others.set id (Builtin.loader draw))).pool.loaders id = Builtin.loader draw :=
      others.set_apply_self id (Builtin.loader draw)
    rw [own]
    exact isBuiltin_loader draw
  idle := fun _ _ impossible => nomatch impossible

/-- What a poll of a call of the loader shows. -/
theorem events_poll (serves : Serves draw id pool) {number : Nat}
    (called : pool.calls[number]?.map Call.loader = some id) (world : World σ) :
    (pool.poll number world).world.state = world.state ∧
      ((pool.poll number world).events = [] ∨ (pool.poll number world).events = resolution) := by
  rcases pool.poll_cases number world with unchanged | ⟨_, _, _, _, finished⟩ | ⟨other, run, drives, driven⟩
  · rw [unchanged]
    exact ⟨rfl, Or.inl rfl⟩
  · rw [finished]
    exact ⟨rfl, Or.inl rfl⟩
  · have same : other = id := by
      rcases drives.call_eq with ⟨stage, present⟩
      rw [present] at called
      exact Option.some.inj called
    subst same
    rw [driven]
    cases drives with
    | continues running => exact absurd running (serves.idle number _)
    | begins =>
      rw [begin_of_isBuiltin serves.builtin]
      exact ⟨rfl, Or.inr rfl⟩

end Serves

/-! ## Replies -/

/-- Whatever the world, the run leaves the state of packages and factories alone and calls no factory but the
preferred one, with a seed. -/
def KeygenOnly {α : Type} (run : Run σ α) : Prop :=
  ∀ world, (run world).world.state = world.state ∧
    ∀ call ∈ Event.calls (run world).events, ∃ seed, call = ("keygen", some seed)

theorem keygenOnly_pure {α : Type} (value : α) : KeygenOnly (pure value : Run σ α) :=
  fun _ => ⟨rfl, fun _ impossible => nomatch impossible⟩

theorem keygenOnly_bind {α β : Type} {first : Run σ α} {next : α → Run σ β} (before : KeygenOnly first)
    (after : ∀ value, KeygenOnly (next value)) : KeygenOnly (first >>= next) := by
  intro world
  rw [Run.bind_apply]
  rcases before world with ⟨stateFirst, callsFirst⟩
  rcases after (first world).value (first world).world with ⟨stateNext, callsNext⟩
  refine ⟨stateNext.trans stateFirst, fun call called => ?_⟩
  rw [Event.calls_append] at called
  exact (List.mem_append.mp called).elim (callsFirst call) (callsNext call)

theorem keygenOnly_log (line : LogLine) : KeygenOnly (Run.log line : Run σ Unit) :=
  fun _ => ⟨rfl, fun _ impossible => nomatch impossible⟩

theorem keygenOnly_map {α β : Type} {run : Run σ α} (before : KeygenOnly run) (f : α → β) :
    KeygenOnly (f <$> run) := by
  rw [map_eq_pure_bind]
  exact keygenOnly_bind before fun _ => keygenOnly_pure _

theorem keygenOnly_publish (seedText : String) (derivation : Derivation) :
    KeygenOnly (publish seedText derivation : Run σ (Except KeygenError SigningKeys)) := by
  unfold publish
  split
  · exact keygenOnly_pure _
  · exact keygenOnly_bind (keygenOnly_log _) fun _ => keygenOnly_bind (keygenOnly_log _) fun _ => keygenOnly_pure _

theorem keygenOnly_reply (order : Order) (result : Except KeygenError Derivation) :
    KeygenOnly (order.reply result : Run σ (Reply σ)) := by
  unfold Order.reply
  split
  · exact keygenOnly_pure _
  · split
    · exact keygenOnly_pure _
    · exact keygenOnly_map (keygenOnly_publish _ _) _

theorem keygenOnly_begin (order? : Option Order) (stamp : Nat) :
    KeygenOnly (Order.begin order? (.ok ⟨stamp, implementation⟩) : Run σ (Phase σ)) := by
  cases order? with
  | none => exact keygenOnly_pure _
  | some order =>
    have tried : KeygenOnly (order.search.begin (resolveCandidates (implementation : Module σ))) := by
      intro world
      rw [Order.search, begin_implementation]
      exact ⟨rfl, fun call member => ⟨order.seed, List.mem_singleton.mp member⟩⟩
    refine keygenOnly_bind tried fun progress => ?_
    cases progress with
    | waiting attempt => exact keygenOnly_pure _
    | finished result => exact keygenOnly_map (keygenOnly_reply order result) _

section Requests

variable {requests : Requests σ} {number : Nat}

/-- What a call of the loader has returned. -/
theorem eq_of_returned (sound : requests.Sound) (serves : Serves draw id requests.pool)
    (made : requests.loaderOf? number = some id) {outcome : Outcome σ} {world : World σ}
    (returned : (requests.pool.poll number world).value.outcome? number = some outcome) :
    ∃ stamp, outcome = .ok ⟨stamp, implementation⟩ := by
  rcases Pool.outcome?_eq_some returned with ⟨other, finished⟩
  -- Polling does not move a call to another loader.
  have same : other = id := by
    have callers := congrArg (fun callers : List LoaderId => callers[number]?)
      (requests.pool.callLoaders_poll number world)
    change (List.map _ _)[number]? = (List.map _ _)[number]? at callers
    rw [List.getElem?_map, List.getElem?_map, finished] at callers
    exact Option.some.inj (callers.trans made)
  have kept := (sound.pool.poll number world).kept finished
  rw [same] at kept
  exact (serves.poll number world).builtin.kept outcome kept

/-- No request on the loader is ever left waiting for a factory. -/
theorem not_trying (sound : requests.Sound) (serves : Serves draw id requests.pool)
    (made : requests.loaderOf? number = some id) (purpose : Purpose) (order : Order)
    (attempt : CandidateChain.Attempt σ) :
    requests.entries[number]? ≠ some ⟨purpose, .trying order attempt⟩ := by
  intro trying
  cases sound.accounted trying with
  | @follows _ _ outcome _ _ same kept follows =>
    cases made.symm.trans same
    rcases serves.builtin.kept outcome kept with ⟨stamp, rfl⟩
    cases follows with
    | trying leads =>
      rcases leads.exists_finished (immediate_implementation order.policy order.seed) with ⟨_, impossible⟩
      cases impossible

/-- A poll of a request on the loader. -/
theorem keygenOnly_poll (sound : requests.Sound) (serves : Serves draw id requests.pool)
    (made : requests.loaderOf? number = some id) : KeygenOnly (requests.poll number) := by
  intro world
  rcases serves.events_poll made world with ⟨state, shown⟩
  have silent : Event.calls (requests.pool.poll number world).events = [] := by
    rcases shown with nothing | resolved
    · rw [nothing]
      rfl
    · rw [resolved]
      rfl
  have polled := requests.polled number world
  generalize requests.poll number world = ending at polled ⊢
  cases polled with
  | idle => exact keygenOnly_pure requests world
  | refused => exact keygenOnly_pure _ world
  | waits =>
    refine ⟨state, ?_⟩
    rw [silent]
    exact fun _ impossible => nomatch impossible
  | @loaded _ order? outcome _ _ returned =>
    rcases eq_of_returned sound serves made returned with ⟨stamp, rfl⟩
    rcases keygenOnly_begin order? stamp (requests.pool.poll number world).world with ⟨later, calls⟩
    refine ⟨later.trans state, ?_⟩
    rw [Event.calls_append, silent]
    exact calls
  | tried trying => exact absurd trying (not_trying sound serves made _ _ _)

/-- What a key generation on the loader has replied. -/
theorem reply_of_returned (sound : requests.Sound) (serves : Serves draw id requests.pool)
    (made : requests.loaderOf? number = some id) {policy : FallbackPolicy} {text : String}
    {entropy : Entropy} {seed : Seed} (available : entropy.probe = .ok ()) (readable : Seed.ofText text = .ok seed)
    {reply : Reply σ}
    (returned : requests.entries[number]? = some ⟨.generate policy (some text) entropy, .returned reply⟩) :
    reply = .generated (.ok (.seeded text (verificationKey seed))) := by
  have ordered : (Purpose.generate policy (some text) entropy).order = .ok (some ⟨policy, seed, some text⟩) := by
    rw [Purpose.order, requestedSeed_some available readable]
    rfl
  rcases (sound.accounted returned).follows_of_returned ordered made with ⟨outcome, kept, follows⟩
  rcases serves.builtin.kept outcome kept with ⟨stamp, rfl⟩
  cases follows with
  | tried leads world replies =>
    cases result_of_mayLead leads
    rw [replies]
    change Reply.generated (publish text _ world).value = _
    rw [value_publish, extractPublicKey_keyPairOf]
    rfl

end Requests

/-! ## In one go -/

/-- Everything that a request on such a loader does. -/
theorem generate_apply_of_isBuiltin {loaders : Loaders σ} (builtin : IsBuiltin draw (loaders id))
    (policy : FallbackPolicy) {text? : Option String} {entropy : Entropy} {seed : Seed} {seedText : String}
    (readable : requestedSeed text? entropy = .ok (seed, seedText)) (world : World σ) :
    let ending := (Generator.mk id policy).generate text? entropy loaders world
    ending.value.1 = .ok (.seeded seedText (verificationKey seed)) ∧
      (∃ stamp, (ending.value.2 id).cell = some (.ok ⟨stamp, implementation⟩)) ∧
      ending.world.state = world.state ∧
      ending.events = (if (loaders id).isSettled then [] else resolution) ++ production seed := by
  intro ending
  rcases load_apply_of_isBuiltin builtin world with ⟨stamp, loaded, state, shown⟩
  have kept := cell_load (loaders id) world
  have applied : ending = _ := Generator.generate_apply ⟨id, policy⟩ text? entropy loaders world
  rw [loaded] at kept
  rw [generate_of_loaded readable loaded, generateOn_implementation, shown] at applied
  rw [applied]
  refine ⟨rfl, ⟨stamp, ?_⟩, state, rfl⟩
  exact (congrArg Loader.cell (loaders.set_apply_self id _)).trans kept

/-! ## The other factory -/

/-- A key pair as the other factory returns it. -/
def otherShape (pair : MlDsa.KeyPair) : RawKeyPair :=
  .ofFields [("verification_key", .bytes pair.verificationKey), ("signing_key", .bytes pair.signingKey)]

theorem field?_otherShape (pair : MlDsa.KeyPair) : (otherShape pair).field? "publicKey" = none := rfl

theorem extractPublicKey_otherShape (pair : MlDsa.KeyPair) :
    (otherShape pair).extractPublicKey = .ok pair.verificationKey := rfl

/-- The check of the length never fails. -/
theorem body_generateKeyPair (seed : Seed) (state : σ) :
    (generateKeyPair : Factory σ).body (some seed) state =
      (.ok (otherShape (MlDsa.generate seed.bytes)), state) := by
  have sized : ¬(MlDsa.generate seed.bytes).verificationKey.length ≠ MlDsa.verificationKeyLength :=
    not_not_intro (MlDsa.length_verificationKey seed.bytes)
  rw [generateKeyPair, Factory.seeded, Factory.body_immediate]
  dsimp only
  rw [if_neg sized]
  rfl

theorem factory?_generateKeyPair :
    (implementation : Module σ).factory? "generate_key_pair" = some generateKeyPair := by
  rw [Module.factory?, get?_implementation, if_pos rfl]

/-! ## The main result -/

/-- Take a loader over the packages that come with the program, among any others, and let any requests be made,
polled and dropped in any order.  Every key generation on that loader that was given a seed and has returned gave
the key of that seed, as FIPS 204 derives it, and called it reproducible, provided that there was randomness to be
had; no poll of a request on the loader touches the state of packages, as drawing a random key pair would, or calls
another factory than `keygen` with a seed.  From every point that is reached so, a key generation in one go does just
that under either policy: unless the loader is settled it imports one package, which the first of the default steps
leads to the implementation of, and the loader keeps the implementation.  The other factory of the implementation
checks the length of the key, names its fields otherwise, and has the same public half. -/
theorem requests_give_the_key_of_their_seed (draw : σ → Seed × σ) (others : Loaders σ) (id : LoaderId)
    (moves : List (Requests.Move σ)) (world : World σ) :
    let reached := (Requests.start (others.set id (loader draw))).moves moves world
    let loaders := reached.value.pool.loaders
    let publicKey (seed : Seed) := (MlDsa.generate seed.bytes).verificationKey
    (∀ number policy text entropy seed reply, reached.value.loaderOf? number = some id →
      entropy.probe = .ok () → Seed.ofText text = .ok seed →
      reached.value.entries[number]? = some ⟨.generate policy (some text) entropy, .returned reply⟩ →
      reply = .generated (.ok ⟨text, Base64Url.encode (publicKey seed), true⟩)) ∧
    (∀ number, reached.value.loaderOf? number = some id →
      let polled := reached.value.poll number reached.world
      polled.world.state = reached.world.state ∧
      ∀ call ∈ Event.calls polled.events, ∃ seed, call = ("keygen", some seed)) ∧
    (∀ policy text entropy seed, entropy.probe = .ok () → Seed.ofText text = .ok seed →
      let ending := (Generator.mk id policy).generate (some text) entropy loaders reached.world
      ending.value.1 = .ok ⟨text, Base64Url.encode (publicKey seed), true⟩ ∧
      (∃ stamp, (ending.value.2 id).cell = some (.ok ⟨stamp, implementation⟩)) ∧
      ending.world.state = reached.world.state ∧
      ∃ first ∈ defaultSteps.head?, ending.events =
        (if (loaders id).isSettled then []
          else [.imported first.specifier, .logged (.resolved first "libcrux-ml-dsa/ml_dsa65")]) ++
        [.called "keygen" (some seed), .logged (.generated "ML-DSA-65" (publicKey seed) true),
          .logged (.producedBy "keygen")]) ∧
    ∀ seed, (publicKey seed).length = 1952 ∧
      ∃ factory raw, (implementation : Module σ).factory? "generate_key_pair" = some factory ∧
        (∀ state, factory.body (some seed) state = (.ok raw, state)) ∧
        raw.field? "publicKey" = none ∧ raw.extractPublicKey = .ok (publicKey seed) := by
  intro reached loaders publicKey
  have serves : Serves draw id reached.value.pool := (Serves.start draw id others).moves moves world
  have sound : reached.value.Sound := (Requests.sound_start _).moves moves world
  -- How the state was reached does not matter any more.
  clear_value reached
  refine ⟨?replies, ?polls, ?inOneGo, ?other⟩
  case replies =>
    intro number policy text entropy seed reply made available readable returned
    exact reply_of_returned sound serves made available readable returned
  case polls =>
    intro number made
    exact keygenOnly_poll sound serves made reached.world
  case inOneGo =>
    have builtin : IsBuiltin draw (loaders id) := serves.builtin
    clear_value loaders
    intro policy text entropy seed available readable
    rcases generate_apply_of_isBuiltin builtin policy (requestedSeed_some available readable) reached.world with
      ⟨value, kept, state, shown⟩
    exact ⟨value, kept, state, _, rfl, shown⟩
  case other =>
    intro seed
    exact ⟨MlDsa.length_verificationKey seed.bytes, generateKeyPair, otherShape (MlDsa.generate seed.bytes),
      factory?_generateKeyPair, body_generateKeyPair seed, field?_otherShape _, extractPublicKey_otherShape _⟩

/-- A load is made and dropped, then the keys of a seed of zeros are requested. -/
theorem requests_give_the_key_of_their_seed_zeros :
    let zeros : Seed := ⟨List.replicate 32 0, rfl⟩
    let draw := fun drawn : Nat => (zeros, drawn + 1)
    let others : Loaders Nat := fun _ => ⟨source draw, [], none⟩
    let reached := (Requests.start (others.set .processWide (loader draw))).moves
      [.make .processWide .load, .drop 0] ⟨0, 0⟩
    let entropy : Entropy := .giving zeros
    entropy.probe = .ok () ∧ Seed.ofText zeros.text = .ok zeros ∧
    ((Generator.mk .processWide .allow).generate (some zeros.text) entropy reached.value.pool.loaders
      reached.world).value.1 =
        .ok ⟨zeros.text, Base64Url.encode (MlDsa.generate zeros.bytes).verificationKey, true⟩ := by
  intro zeros draw others
  -- The state that is reached stays written out, so that nothing of it gets computed.
  refine ⟨rfl, zeros.ofText_text, ?_⟩
  exact ((requests_give_the_key_of_their_seed draw others .processWide
    [.make .processWide .load, .drop 0] ⟨0, 0⟩).2.2.1
    .allow zeros.text (.giving zeros) zeros rfl zeros.ofText_text).1

end Builtin
end NodeKeys
