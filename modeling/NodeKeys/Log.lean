import NodeKeys.Config.Basic
import NodeKeys.Error
import NodeKeys.Fingerprint
import NodeKeys.Loader.Step

/-!
# Log lines

Every line that is ever logged is one of these, with the values that it mentions.  The level and the
wording follow from the kind of line.  No line holds a private key, a seed or the bytes of a key.
-/

namespace NodeKeys

open Loader (Step)

/-- How loud a line is. -/
inductive LogLevel where
  | trace
  | debug
  | info
  | warn
  deriving DecidableEq, Repr

/-- The level as it stands in front of a line. -/
def LogLevel.text : LogLevel → String
  | trace => "TRACE"
  | debug => "DEBUG"
  | info => "INFO"
  | warn => "WARN"

/-- What a log line reports. -/
inductive LogLine where
  /-- An import succeeded without a module. -/
  | stepEmpty (step : Step)
  /-- An import failed. -/
  | stepFailed (step : Step) (error : ImportError)
  /-- The step's access led to nothing, or to a module without exports. -/
  | stepUnusable (step : Step)
  /-- The step led to the implementation of this name. -/
  | resolved (step : Step) (name : String)
  /-- A factory that takes no seed was passed over. -/
  | factorySkipped (factory : String)
  /-- A factory returned a value without content. -/
  | factoryReturnedEmpty (factory : String)
  /-- A factory that takes no seed returned a key pair. -/
  | factoryIgnoresSeed (factory : String)
  /-- A factory failed. -/
  | factoryFailed (factory : String) (error : FactoryError)
  /-- A key pair that follows from its seed. -/
  | generatedFromSeed (algorithm fingerprint : String)
  /-- A key pair that its seed cannot reproduce. -/
  | generatedWithoutSeed (algorithm fingerprint : String)
  /-- Which factory the key pair is from. -/
  | producedBy (factory : String)
  /-- A private transport key is no thirty-two bytes of key text. -/
  | privateKeyRejected (error : Base64Url.CodecError)
  /-- A fresh transport key pair. -/
  | transportKeyGenerated (fingerprint : String)
  /-- The configuration of a command. -/
  | usingConfig (config : Config)
  deriving DecidableEq, Repr

namespace LogLine

/-- The line about a finished ML-DSA-65 or other key generation.  It is a warning if the key pair is not
bound to its seed. -/
def generated (algorithm : String) (publicKey : List UInt8) (seedBound : Bool) : LogLine :=
  if seedBound then generatedFromSeed algorithm (fingerprint publicKey)
  else generatedWithoutSeed algorithm (fingerprint publicKey)

def level : LogLine → LogLevel
  | stepEmpty _ | stepFailed _ _ | stepUnusable _ => .trace
  | resolved _ _ | factorySkipped _ | producedBy _ | privateKeyRejected _ | usingConfig _ => .debug
  | generatedFromSeed _ _ | transportKeyGenerated _ => .info
  | factoryReturnedEmpty _ | factoryIgnoresSeed _ | factoryFailed _ _ | generatedWithoutSeed _ _ =>
    .warn

def wording : LogLine → String
  | stepEmpty step => s!"Loader step {step.text} produced nothing"
  | stepFailed step error => s!"Loader step {step.text} failed: {error.message}"
  | stepUnusable step => s!"Loader step {step.text} has no usable export"
  | resolved step name => s!"Resolved ML-DSA-65 implementation via {step.text} ({name})"
  | factorySkipped factory => s!"Skipping seed-agnostic factory `{factory}`"
  | factoryReturnedEmpty factory => s!"Factory `{factory}` returned an empty key pair"
  | factoryIgnoresSeed factory =>
    s!"Factory `{factory}` ignores the seed; key pair is not reproducible"
  | factoryFailed factory error => s!"Factory `{factory}` failed: {error.message}"
  | generatedFromSeed algorithm shown => s!"Generated {algorithm} key pair (public_key: {shown})"
  | generatedWithoutSeed algorithm shown =>
    s!"Generated {algorithm} key pair without seed binding (public_key: {shown})"
  | producedBy factory => s!"ML-DSA-65 key pair produced by `{factory}`"
  | privateKeyRejected error => s!"Rejected X25519 private key: {error.message}"
  | transportKeyGenerated shown => s!"Generated X25519 key pair (public_key: {shown})"
  | usingConfig config => s!"Using configuration {config.diagnostic}"

def text (line : LogLine) : String :=
  line.level.text ++ " " ++ line.wording

end LogLine
end NodeKeys
