import NodeKeys.Module
import NodeKeys.Scripted.State

/-!
# Scripted factories

A factory's script says what each run of its body does.  A value that is returned may mention the seed that
the body was given; without a seed such a value cannot be built, and the call fails.  The script moves on
with every run of the body, also with one that fails, and not with a call that ends before the body.
-/

namespace NodeKeys
namespace Scripted

/-- A key pair with places for the seed. -/
inductive Template where
  | bytes (content : List UInt8)
  | object (fields : List (String × Template))
  | list (items : List Template)
  | text (content : String)
  | null
  /-- The bytes of the seed. -/
  | seed
  /-- The bytes of the seed, last one first. -/
  | reversedSeed
  deriving Inhabited

/-- The error of a value that mentions a seed the factory was not given. -/
def seedMissing : FactoryError := ⟨"seed missing"⟩

def seedBytes (seed? : Option Seed) : Except FactoryError (List UInt8) :=
  match seed? with
  | some seed => .ok seed.bytes
  | none => .error seedMissing

namespace Template

mutual

/-- Put the seed in its places. -/
def build (seed? : Option Seed) : Template → Except FactoryError RawKeyPair
  | bytes content => .ok (.bytes content)
  | object fields => do return .ofFields (← buildFields seed? fields)
  | list items => do return .list (← buildItems seed? items)
  | text content => .ok (.text content)
  | null => .ok .null
  | seed => do return .bytes (← seedBytes seed?)
  | reversedSeed => do return .bytes (← seedBytes seed?).reverse
termination_by structural template => template

def buildFields (seed? : Option Seed) :
    List (String × Template) → Except FactoryError (List (String × RawKeyPair))
  | [] => .ok []
  | (name, template) :: rest => do
    let value ← template.build seed?
    let values ← buildFields seed? rest
    return (name, value) :: values
termination_by structural fields => fields

def buildItems (seed? : Option Seed) : List Template → Except FactoryError (List RawKeyPair)
  | [] => .ok []
  | template :: rest => do
    let value ← template.build seed?
    let values ← buildItems seed? rest
    return value :: values
termination_by structural items => items

end

end Template

/-- What one run of a factory's body does. -/
inductive Action where
  | give (template : Template)
  | fail (message : String)

/-- One run of the body of the factory with this number. -/
def perform (number : Nat) (label : String) (script : List Action) (seed? : Option Seed)
    (state : State) : Except FactoryError RawKeyPair × State :=
  let result :=
    match turnOf script (state.factoryTurn number) with
    | none => .ok .null
    | some (.give template) => template.build seed?
    | some (.fail message) => .error ⟨message⟩
  (result, state.noteExecution number label seed?.isSome)

def seededFactory (number : Nat) (label : String) (script : List Action) : Factory State :=
  Factory.seeded fun seed => perform number label script (some seed)

def unseededFactory (number : Nat) (label : String) (script : List Action) : Factory State :=
  Factory.unseeded (perform number label script none)

/-- A scripted factory of any arity, whose body is given whatever the caller passes.  It makes its caller wait
before the body runs. -/
def factoryOfArity (arity number : Nat) (label : String) (script : List Action) (waits : Nat) :
    Factory State where
  arity
  start := fun seed? state => (⟨waits, perform number label script seed?⟩, state)

def callEach (factory : Factory State) :
    List (Option Seed) → State → List (Except FactoryError RawKeyPair) × State
  | [], state => ([], state)
  | argument :: rest, state =>
    let (result, next) := factory.body argument state
    let (results, last) := callEach factory rest next
    (result :: results, last)

end Scripted
end NodeKeys
