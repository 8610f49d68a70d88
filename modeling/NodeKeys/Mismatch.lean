import NodeKeys.Diagnostic

/-!
# Values of the wrong kind

A document may be well formed and still hold a value of another kind than is wanted.  The error names the
value that was found, with its content if it is a single value, and what was expected.
-/

namespace NodeKeys

/-- A value that was found. -/
inductive Found where
  | null
  | bool (value : Bool)
  | integer (value : Int)
  /-- A floating-point number, as its format writes it. -/
  | float (shown : String)
  | text (value : String)
  | sequence
  | map
  deriving DecidableEq, Repr

def Found.wording : Found → String
  | null => "null"
  | bool value => s!"boolean `{Diagnostic.bool value}`"
  | integer value => s!"integer `{value}`"
  | float shown => s!"floating point `{shown}`"
  | text value => "string " ++ Diagnostic.quoted value
  | sequence => "sequence"
  | map => "map"

/-- A value of the wrong kind, and what should stand in its place. -/
structure Mismatch where
  found : Found
  expected : String
  deriving DecidableEq, Repr

def Mismatch.message (mismatch : Mismatch) : String :=
  s!"invalid type: {mismatch.found.wording}, expected {mismatch.expected}"

end NodeKeys
