import NodeKeys.Config.Basic
import NodeKeys.Toml.Document

/-!
# Configuration documents

A configuration is a TOML document with a table `mldsa65`, in which `allow_unseeded_fallback` is the one
setting.  Both may be absent, and everything else in the document is passed over.  The settings may also be
an array whose first item is the value of the one setting.
-/

namespace NodeKeys

/-- Why a text is no configuration. -/
inductive DocumentError where
  /-- The text is no TOML. -/
  | malformed
  /-- A value of the wrong kind. -/
  | invalidType (mismatch : Mismatch)
  deriving DecidableEq, Repr

/-- The error in words; there are none for a text that is no TOML. -/
def DocumentError.message? : DocumentError → Option String
  | malformed => none
  | invalidType mismatch => some mismatch.message

/-- The error in words, in any case. -/
def DocumentError.wording (error : DocumentError) : String :=
  error.message?.getD "not a TOML document"

def flagOfValue : Toml.Value → Except Mismatch Bool
  | .bool flag => .ok flag
  | other => .error ⟨other.found, "a boolean"⟩

namespace Settings

/-- The name of the one setting. -/
def flagName : String := "allow_unseeded_fallback"

/-- The settings with this value, or the default ones. -/
def ofFlag? : Option Toml.Value → Except Mismatch Settings
  | none => .ok {}
  | some value => (flagOfValue value).map Settings.mk

def ofValue : Toml.Value → Except Mismatch Settings
  | .table _ entries => ofFlag? (Table.find? flagName entries)
  | .array items => ofFlag? items.head?
  | .tables elements => ofFlag? (elements.head?.map (.table .header))
  | .dateTime => .ok {}
  | other => .error ⟨other.found, "struct Mldsa65Settings"⟩

end Settings

namespace Config

/-- The name of the settings of ML-DSA-65 key generation. -/
def settingsName : String := "mldsa65"

def ofEntries (entries : Toml.Entries) : Except Mismatch Config :=
  match Table.find? settingsName entries with
  | none => .ok {}
  | some value => (Settings.ofValue value).map Config.mk

def ofToml (text : String) : Except DocumentError Config :=
  match Toml.ofText text with
  | none => .error .malformed
  | some entries => (ofEntries entries).mapError .invalidType

end Config
end NodeKeys
