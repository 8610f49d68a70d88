import NodeKeys.Base64Url
import NodeKeys.Diagnostic

/-!
# What can go wrong

A failed import and a failed factory are setbacks: the next loader step or the next factory is tried.
A `KeygenError` ends the request.  Each error has a text for the user and a diagnostic rendering; the
causes that lie beneath an error are listed apart from its own text.
-/

namespace NodeKeys

/-- A package could not be imported. -/
structure ImportError where
  specifier : String
  reason : String
  deriving DecidableEq, Repr

namespace ImportError

def message (error : ImportError) : String :=
  s!"Failed to import `{error.specifier}`: {error.reason}"

def diagnostic (error : ImportError) : String :=
  Diagnostic.record "ImportError"
    [("specifier", Diagnostic.quoted error.specifier), ("reason", Diagnostic.quoted error.reason)]

end ImportError

/-- A factory was called and gave no key pair. -/
structure FactoryError where
  message : String
  deriving DecidableEq, Repr

def FactoryError.diagnostic (error : FactoryError) : String :=
  Diagnostic.tuple "FactoryError" [Diagnostic.quoted error.message]

namespace Base64Url

def TextError.diagnostic : TextError → String
  | invalidSymbol offset byte =>
    Diagnostic.tuple "InvalidByte" [toString offset, toString byte.toNat]
  | invalidLength length => Diagnostic.tuple "InvalidLength" [toString length]
  | invalidLastSymbol offset byte =>
    Diagnostic.tuple "InvalidLastSymbol" [toString offset, toString byte.toNat]
  | invalidPadding => "InvalidPadding"

/-- Two lengths that should agree. -/
def lengthFields (expected actual : Nat) : List (String × String) :=
  [("expected", toString expected), ("actual", toString actual)]

namespace CodecError

def diagnostic : CodecError → String
  | decode error => Diagnostic.tuple "Decode" [error.diagnostic]
  | length expected actual => Diagnostic.record "Length" (lengthFields expected actual)

/-- The texts of the errors beneath this one. -/
def causes : CodecError → List String
  | decode error => [error.message]
  | length _ _ => []

end CodecError
end Base64Url

open Base64Url (CodecError lengthFields)

/-- Why a request for keys failed. -/
inductive KeygenError where
  /-- There is no usable source of randomness. -/
  | environment (reason : String)
  /-- The seed is not readable. -/
  | invalidSeed (error : CodecError)
  /-- The seed is readable and has the wrong length. -/
  | invalidSeedLength (expected actual : Nat)
  /-- No loader step led to an implementation. -/
  | implementationNotFound (reason : String)
  /-- No factory of the implementation gave a key pair. -/
  | keyGenerationFailed (reason : String)
  /-- The key pair has no recognizable public half. -/
  | publicKeyExtraction (reason : String)
  /-- The private key is unusable. -/
  | invalidKey (reason : String)
  /-- The settings could not be loaded. -/
  | config (reason : String)
  deriving DecidableEq, Repr

namespace KeygenError

def message : KeygenError → String
  | environment reason => "Unsupported environment: " ++ reason
  | invalidSeed error => "Invalid seed: " ++ error.message
  | invalidSeedLength expected actual =>
    s!"Invalid seed length: expected {expected} bytes, got {actual}"
  | implementationNotFound reason => "ML-DSA-65 implementation not found: " ++ reason
  | keyGenerationFailed reason => "Key generation failed: " ++ reason
  | publicKeyExtraction reason => "Unable to extract public key: " ++ reason
  | invalidKey reason => "Invalid key: " ++ reason
  | config reason => "Configuration error: " ++ reason

def diagnostic : KeygenError → String
  | environment reason => Diagnostic.tuple "Environment" [Diagnostic.quoted reason]
  | invalidSeed error => Diagnostic.tuple "InvalidSeed" [error.diagnostic]
  | invalidSeedLength expected actual =>
    Diagnostic.record "InvalidSeedLength" (lengthFields expected actual)
  | implementationNotFound reason =>
    Diagnostic.tuple "ImplementationNotFound" [Diagnostic.quoted reason]
  | keyGenerationFailed reason => Diagnostic.tuple "KeyGenerationFailed" [Diagnostic.quoted reason]
  | publicKeyExtraction reason => Diagnostic.tuple "PublicKeyExtraction" [Diagnostic.quoted reason]
  | invalidKey reason => Diagnostic.tuple "InvalidKey" [Diagnostic.quoted reason]
  | config reason => Diagnostic.tuple "Config" [Diagnostic.quoted reason]

/-- The texts of the errors beneath this one, outermost first. -/
def causes : KeygenError → List String
  | invalidSeed error => error.message :: error.causes
  | _ => []

end KeygenError
end NodeKeys
