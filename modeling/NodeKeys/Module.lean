import NodeKeys.RawKeyPair.Basic
import NodeKeys.Run

/-!
# Modules of unknown shape

An implementation is a module: a table of named exports, each of them a factory of key pairs or another
module.  Nothing is assumed about the names; the loader and the derivation try the ones they know.

A factory may keep state and take its time, so a call of it is pending and acts on the state of the world, when it
is made and when it answers.  Its arity is how many arguments it declares, and a factory with at least one is given
the seed.
-/

namespace NodeKeys

/-- A function that makes key pairs. -/
structure Factory (σ : Type) where
  arity : Nat
  /-- Call the function. -/
  start : Option Seed → σ → Pending σ (Except FactoryError RawKeyPair) × σ

namespace Factory

variable {σ : Type}

/-- A factory that is done as soon as it is called. -/
def immediate (arity : Nat) (body : Option Seed → σ → Except FactoryError RawKeyPair × σ) : Factory σ where
  arity
  start := fun argument state =>
    let (answer, next) := body argument state
    (.ready answer, next)

/-- A factory whose one argument is the seed.  Without it the call fails before the body runs. -/
def seeded (body : Seed → σ → Except FactoryError RawKeyPair × σ) : Factory σ :=
  immediate 1 fun
    | some seed => body seed
    | none => fun state => (.error ⟨"seed argument missing"⟩, state)

/-- A factory without arguments.  A seed that is passed all the same is dropped. -/
def unseeded (body : σ → Except FactoryError RawKeyPair × σ) : Factory σ :=
  immediate 0 fun _ => body

/-- What a call comes to if nothing else happens until it answers. -/
def body (factory : Factory σ) (argument : Option Seed) (state : σ) : Except FactoryError RawKeyPair × σ :=
  let (pending, started) := factory.start argument state
  pending.answer started

@[simp]
theorem body_immediate (arity : Nat) (body : Option Seed → σ → Except FactoryError RawKeyPair × σ) :
    (immediate arity body).body = body := rfl

def takesSeed (factory : Factory σ) : Bool :=
  0 < factory.arity

/-- The factory as a record of which only the arity is shown. -/
def diagnostic (factory : Factory σ) : String :=
  Diagnostic.openRecord "Factory" [("arity", toString factory.arity)]

end Factory

mutual

/-- A table of named exports. -/
inductive Module (σ : Type) where
  | mk (name : String) (exports : List (String × Export σ))

/-- What a module can export. -/
inductive Export (σ : Type) where
  | factory (factory : Factory σ)
  | module (module : Module σ)

end

namespace Module

variable {σ : Type}

def name : Module σ → String
  | mk name _ => name

/-- The exports in the order of their names. -/
def exports : Module σ → List (String × Export σ)
  | mk _ exports => exports

def empty (name : String) : Module σ :=
  mk name []

/-- Add an export.  An earlier export of the same name is replaced, whatever its sort. -/
def insert (module : Module σ) (name : String) (item : Export σ) : Module σ :=
  mk module.name (Table.insert name item module.exports)

def withFactory (module : Module σ) (name : String) (factory : Factory σ) : Module σ :=
  module.insert name (.factory factory)

def withModule (module : Module σ) (name : String) (nested : Module σ) : Module σ :=
  module.insert name (.module nested)

def get? (module : Module σ) (name : String) : Option (Export σ) :=
  Table.find? name module.exports

def factory? (module : Module σ) (name : String) : Option (Factory σ) :=
  match module.get? name with
  | some (.factory factory) => some factory
  | _ => none

def submodule? (module : Module σ) (name : String) : Option (Module σ) :=
  match module.get? name with
  | some (.module nested) => some nested
  | _ => none

theorem get?_insert_self (module : Module σ) (name : String) (item : Export σ) :
    (module.insert name item).get? name = some item :=
  Table.find?_insert_self name item module.exports

theorem get?_insert_of_ne (module : Module σ) {name other : String} (differs : other ≠ name)
    (item : Export σ) : (module.insert name item).get? other = module.get? other :=
  Table.find?_insert_of_ne differs item module.exports

theorem factory?_eq_some {module : Module σ} {key : String} {factory : Factory σ} :
    module.factory? key = some factory ↔ module.get? key = some (.factory factory) := by
  unfold factory?
  rcases module.get? key with _ | exported | nested <;> simp

theorem submodule?_eq_some {module : Module σ} {key : String} {nested : Module σ} :
    module.submodule? key = some nested ↔ module.get? key = some (.module nested) := by
  unfold submodule?
  rcases module.get? key with _ | exported | inner <;> simp

def exportNames (module : Module σ) : List String :=
  module.exports.map Prod.fst

def isEmpty (module : Module σ) : Bool :=
  module.exports.isEmpty

/-- The module at the end of a path of nested modules. -/
def descend? (module : Module σ) (path : List String) : Option (Module σ) :=
  path.foldlM (fun current name => current.submodule? name) module

theorem descend?_append (module : Module σ) (first second : List String) :
    module.descend? (first ++ second) =
      (module.descend? first).bind fun reached => reached.descend? second :=
  List.foldlM_append

theorem submodule?_eq_descend? (module : Module σ) (name : String) :
    module.submodule? name = module.descend? [name] := by
  unfold descend?
  rw [List.foldlM_cons]
  exact (bind_pure _).symm

end Module

mutual

def Module.diagnostic {σ : Type} : Module σ → String
  | .mk name exports =>
    Diagnostic.record "Module"
      [("name", Diagnostic.quoted name), ("exports", Diagnostic.table (Module.exportDiagnostics exports))]
termination_by structural module => module

def Export.diagnostic {σ : Type} : Export σ → String
  | .factory factory => Diagnostic.tuple "Factory" [factory.diagnostic]
  | .module nested => Diagnostic.tuple "Module" [nested.diagnostic]
termination_by structural item => item

def Module.exportDiagnostics {σ : Type} : List (String × Export σ) → List (String × String)
  | [] => []
  | (name, item) :: rest => (name, item.diagnostic) :: Module.exportDiagnostics rest
termination_by structural exports => exports

end

end NodeKeys
