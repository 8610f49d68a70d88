import NodeKeys.Diagnostic

/-!
# Settings

There is one setting: whether a key pair may come from a factory that takes no seed.  It is allowed unless
a configuration says otherwise.
-/

namespace NodeKeys

/-- Settings of ML-DSA-65 key generation. -/
structure Settings where
  /-- Permit factories that take no seed.  Their key pairs cannot be made again from the seed. -/
  allowUnseededFallback : Bool := true
  deriving DecidableEq, Repr

/-- The whole configuration. -/
structure Config where
  mldsa65 : Settings := {}
  deriving DecidableEq, Repr

namespace Config

def diagnostic (config : Config) : String :=
  Diagnostic.record "PanelKeyConfig"
    [("mldsa65", Diagnostic.record "Mldsa65Settings"
      [("allow_unseeded_fallback", Diagnostic.bool config.mldsa65.allowUnseededFallback)])]

def toToml (config : Config) : String :=
  "[mldsa65]\nallow_unseeded_fallback = "
    ++ Diagnostic.bool config.mldsa65.allowUnseededFallback ++ "\n"

end Config

/-- What to do when only factories that take no seed are left. -/
inductive FallbackPolicy where
  /-- Call them, and mark the key pair as not reproducible. -/
  | allow
  /-- Pass them over. -/
  | deny
  deriving DecidableEq, Repr, Inhabited

namespace FallbackPolicy

def ofSettings (settings : Settings) : FallbackPolicy :=
  if settings.allowUnseededFallback then allow else deny

def diagnostic : FallbackPolicy → String
  | allow => "Allow"
  | deny => "Deny"

end FallbackPolicy
end NodeKeys
