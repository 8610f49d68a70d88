import NodeKeys.Builtin
import NodeKeys.CommandLine.Execute
import NodeKeys.CommandLine.Parse
import NodeKeys.EntropyPool

/-!
# The program

Everything that is decided is decided elsewhere.  Here the surroundings are read, the command line is carried
out on them, and what it wrote is printed.
-/

namespace NodeKeys
namespace Program

/-- Why the system could not read a file. -/
def faultOf : IO.Error → ReadFault
  | .noFileOrDirectory _ _ _ => .missing
  | .inappropriateType _ 20 _ => .notADirectory
  | .inappropriateType _ 21 _ => .isADirectory
  | error => .other error.toString

def readFile (path : String) : IO (Except ReadFault (List UInt8)) := do
  try
    return .ok (← IO.FS.readBinFile path).toList
  catch error =>
    return .error (faultOf error)

def snapshot (paths : List String) : IO FileView := do
  let contents ← paths.mapM fun path => return (path, ← readFile path)
  let read (path : String) := (contents.lookup path).getD (.error .missing)
  return { read
           isFile := fun path =>
             match read path with
             | .ok _ | .error (.other _) => true
             | .error _ => false }

/-- The environment of the process, as far as it matters. -/
def environment : IO Environment := do
  let values ← [Environment.configVariable, "HOME", "XDG_CONFIG_HOME"].mapM fun name =>
    return (name, ← IO.getEnv name)
  return { get? := fun name => (values.lookup name).join }

def randomBytes (count : Nat) : IO (Except String (List UInt8)) := do
  try
    return .ok (← IO.getRandomBytes count.toUSize).toList
  catch error =>
    return .error error.toString

/-- The system's source of random bytes as it is now. -/
def entropy : IO Entropy := do
  let probe ← randomBytes 1
  let bytes ← randomBytes seedLength
  return { probe := probe.map fun _ => ()
           bytes := bytes.bind fun drawn =>
             match Seed.ofBytes? drawn with
             | some seed => .ok seed
             | none => .error "too few bytes" }

def carryOut (invocation : CommandLine.Invocation) : IO UInt32 := do
  let surroundings ← environment
  let paths := [invocation.config, surroundings.get? Environment.configVariable,
    surroundings.defaultPath?].filterMap id
  let files ← snapshot paths
  let loaders : Loaders EntropyPool := fun _ => Builtin.loader EntropyPool.draw
  -- A request that finds no randomness fails before it draws from the pool.
  let root := (← randomBytes seedLength).toOption.getD []
  let ending := invocation.execute surroundings files (← entropy) loaders { state := { root } }
  IO.print (Event.output ending.events)
  match ending.value.1 with
  | .ok () => return 0
  | .error failure =>
    IO.eprintln ("Error: " ++ "\n  caused by: ".intercalate failure.chain)
    return 1

/-- Read a command line and carry it out.  The result is how the process ends. -/
def run (arguments : List String) : IO UInt32 := do
  match CommandLine.parse arguments with
  | .ok invocation => carryOut invocation
  | .error error =>
    if error = .displayVersion then IO.print CommandLine.UsageError.versionText
    else IO.eprintln "Usage: panelkey [--config <CONFIG>] <mldsa65|x25519|help>"
    return error.exitCode.toUInt32

end Program
end NodeKeys

def main (arguments : List String) : IO UInt32 :=
  NodeKeys.Program.run arguments
