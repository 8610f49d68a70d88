import NodeKeys.Log
import NodeKeys.Seed

/-!
# Runs

Packages and factories belong to somebody else and may keep state of any kind, so everything that calls
them is a `Run`: it starts in a world and ends in a world, with a value and the events on the way.  The
part of the world that packages and factories work on is the parameter `σ`; nothing here looks into it.

Events are what an observer can see: imports that were started, factories that were called and with what,
log lines and output.  A run never takes back an event, because running one part after another appends.

Imports and factory calls take time.  What was started is `Pending`: it decides at once how many times it has to
be asked before it answers, and makes its answer when it is given.
-/

namespace NodeKeys

/-- What an observer sees. -/
inductive Event where
  /-- The import of a package was started. -/
  | imported (specifier : String)
  /-- A factory was called, with a seed or without one. -/
  | called (factory : String) (argument : Option Seed)
  /-- A line was logged. -/
  | logged (line : LogLine)
  /-- Text was written to the output. -/
  | written (text : String)
  deriving DecidableEq

namespace Event

def imports (events : List Event) : List String :=
  events.filterMap fun
    | imported specifier => some specifier
    | _ => none

def calls (events : List Event) : List (String × Option Seed) :=
  events.filterMap fun
    | called factory argument => some (factory, argument)
    | _ => none

def log (events : List Event) : List LogLine :=
  events.filterMap fun
    | logged line => some line
    | _ => none

/-- The text that was written, as a whole. -/
def output : List Event → String
  | [] => ""
  | written text :: events => text ++ output events
  | _ :: events => output events

@[simp]
theorem imports_append (first second : List Event) :
    imports (first ++ second) = imports first ++ imports second :=
  List.filterMap_append

@[simp]
theorem calls_append (first second : List Event) :
    calls (first ++ second) = calls first ++ calls second :=
  List.filterMap_append

@[simp]
theorem log_append (first second : List Event) : log (first ++ second) = log first ++ log second :=
  List.filterMap_append

theorem output_append (first second : List Event) :
    output (first ++ second) = output first ++ output second := by
  induction first with
  | nil => exact String.empty_append.symm
  | cons event events appended =>
    cases event with
    | written text => simp only [List.cons_append, output, appended, String.append_assoc]
    | _ => exact appended

end Event

/-- Something that was started and takes its time. -/
structure Pending (σ α : Type) where
  /-- How many more times it is not ready when asked. -/
  waits : Nat
  /-- The answer, when it is ready. -/
  answer : σ → α × σ

namespace Pending

variable {σ α β : Type}

def ready (value : α) : Pending σ α :=
  ⟨0, fun state => (value, state)⟩

def map (f : α → β) (pending : Pending σ α) : Pending σ β where
  waits := pending.waits
  answer := fun state =>
    let (value, next) := pending.answer state
    (f value, next)

end Pending

/-- The state of packages and factories, and how many implementation handles have been made so far. -/
structure World (σ : Type) where
  state : σ
  handles : Nat := 0

/-- How a run ends. -/
structure Ending (σ α : Type) where
  value : α
  world : World σ
  events : List Event

/-- A computation on a world. -/
def Run (σ α : Type) : Type := World σ → Ending σ α

namespace Run

variable {σ α β : Type}

/-- End with a value, without any effect. -/
protected def pure (value : α) : Run σ α :=
  fun world => ⟨value, world, []⟩

protected def bind (first : Run σ α) (next : α → Run σ β) : Run σ β := fun world =>
  let before := first world
  let after := next before.value before.world
  ⟨after.value, after.world, before.events ++ after.events⟩

instance : Monad (Run σ) where
  pure := Run.pure
  bind := Run.bind

def emit (event : Event) : Run σ Unit :=
  fun world => ⟨(), world, [event]⟩

def log (line : LogLine) : Run σ Unit :=
  emit (.logged line)

def write (text : String) : Run σ Unit :=
  emit (.written text)

/-- Let a package or factory act on its state. -/
def act (action : σ → α × σ) : Run σ α := fun world =>
  let (value, state) := action world.state
  ⟨value, { world with state }, []⟩

def newHandle : Run σ Nat :=
  fun world => ⟨world.handles, { world with handles := world.handles + 1 }, []⟩

theorem pure_apply (value : α) (world : World σ) :
    (pure value : Run σ α) world = ⟨value, world, []⟩ := rfl

theorem bind_apply (first : Run σ α) (next : α → Run σ β) (world : World σ) :
    (first >>= next) world =
      ⟨(next (first world).value (first world).world).value,
       (next (first world).value (first world).world).world,
       (first world).events ++ (next (first world).value (first world).world).events⟩ := rfl

/-- What comes after a run matters only where that run ends. -/
theorem bind_apply_congr {first : Run σ α} {next other : α → Run σ β} {world : World σ}
    (same : next (first world).value (first world).world = other (first world).value (first world).world) :
    (first >>= next) world = (first >>= other) world := by
  rw [bind_apply, bind_apply, same]

theorem map_apply (f : α → β) (run : Run σ α) (world : World σ) :
    (f <$> run) world = ⟨f (run world).value, (run world).world, (run world).events⟩ := by
  show Ending.mk _ _ ((run world).events ++ []) = _
  rw [List.append_nil]
  rfl

theorem log_apply (line : LogLine) (world : World σ) :
    (log line : Run σ Unit) world = ⟨(), world, [.logged line]⟩ := rfl

private theorem map_id_run (run : Run σ α) : id <$> run = run := by
  funext world
  exact map_apply id run world

private theorem bind_assoc_run {γ : Type} (first : Run σ α) (next : α → Run σ β) (last : β → Run σ γ) :
    first >>= next >>= last = first >>= fun value => next value >>= last := by
  funext world
  simp only [bind_apply, List.append_assoc]

instance : LawfulMonad (Run σ) :=
  LawfulMonad.mk' (Run σ) map_id_run (fun _ _ => rfl) bind_assoc_run

end Run
end NodeKeys
