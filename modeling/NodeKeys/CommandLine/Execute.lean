import NodeKeys.Builder
import NodeKeys.CommandLine.Grammar
import NodeKeys.Config.Load
import NodeKeys.Json.KeyRecord
import NodeKeys.TransportKeys

/-!
# Carrying out a command line

The configuration is loaded first.  Output is written after everything that can fail, and in one piece, so
a command that fails has written nothing.
-/

namespace NodeKeys
namespace CommandLine

variable {σ : Type}

/-- Why a command failed. -/
inductive Failure where
  | config (error : ConfigError)
  | signingKeys (error : KeygenError)
  | publicKey (error : KeygenError)
  | transportKeys (error : KeygenError)
  deriving DecidableEq, Repr

/-- The failure in words, outermost first. -/
def Failure.chain : Failure → List String
  | config error => "failed to load configuration" :: error.message :: error.causes
  | signingKeys error => "ML-DSA-65 key generation failed" :: error.message :: error.causes
  | publicKey error => "X25519 public key derivation failed" :: error.message :: error.causes
  | transportKeys error => "X25519 key generation failed" :: error.message :: error.causes

def labelledLine (name text : String) : String :=
  name ++ ": " ++ text ++ "\n"

def showSigningKeys (keys : SigningKeys) (json : Bool) : String :=
  if json then keys.toPrettyJson ++ "\n"
  else labelledLine "seed" keys.seed ++ labelledLine "verify" keys.verify

def showTransportKeys (keys : TransportKeys) (json : Bool) : String :=
  if json then keys.toPrettyJson ++ "\n"
  else labelledLine "private_key" keys.privateKey ++ labelledLine "public_key" keys.publicKey

def writeResult {α : Type} (fail : KeygenError → Failure) (render : α → String) :
    Except KeygenError α → Run σ (Except Failure Unit)
  | .error error => return .error (fail error)
  | .ok value => do
    Run.write (render value)
    return .ok ()

/-- Carry a command out under a configuration.  Random bytes are used where a command needs them. -/
def Command.execute (command : Command) (config : Config) (entropy : Entropy) (loaders : Loaders σ) :
    Run σ (Except Failure Unit × Loaders σ) :=
  match command with
  | .mldsa65 seed json => do
    let request := match seed with
      | some text => (Builder.ofConfig config).withSeed text
      | none => Builder.ofConfig config
    let (result, after) ← request.generate entropy loaders
    let ending ← writeResult .signingKeys (showSigningKeys · json) result
    return (ending, after)
  | .publicKey privateKey => do
    let result ← (({} : TransportKeyBuilder).withPrivateKey privateKey).publicKey
    let ending ← writeResult .publicKey (· ++ "\n") result
    return (ending, loaders)
  | .transportKeys json => do
    let result ← ({} : TransportKeyBuilder).keyPair entropy
    let ending ← writeResult .transportKeys (showTransportKeys · json) result
    return (ending, loaders)

def Invocation.execute (invocation : Invocation) (environment : Environment) (files : FileView)
    (entropy : Entropy) (loaders : Loaders σ) : Run σ (Except Failure Unit × Loaders σ) :=
  match Config.load environment files invocation.config with
  | .error error => return (.error (.config error), loaders)
  | .ok config => do
    Run.log (.usingConfig config)
    invocation.command.execute config entropy loaders

end CommandLine
end NodeKeys
