import NodeKeys.Diagnostic

/-!
# Loader steps

A step names a package and says where inside it the implementation is.  All four kinds of access are
paths of nested exports: the package itself is the empty path, and a named or default export is a path of
one name.
-/

namespace NodeKeys
namespace Loader

/-- The export that holds the ML-DSA-65 variant of a package of several variants. -/
def variantExport : String := "ml_dsa65"

def defaultExport : String := "default"

/-- Where the implementation is inside an imported package. -/
inductive Access where
  /-- In a nested module of this name. -/
  | named (name : String)
  /-- In the default export. -/
  | default
  /-- The package itself. -/
  | asIs
  /-- At the end of a path of nested modules. -/
  | nested (path : List String)
  deriving DecidableEq, Repr

namespace Access

def path : Access → List String
  | named name => [name]
  | default => [defaultExport]
  | asIs => []
  | nested names => names

def diagnostic : Access → String
  | named name => Diagnostic.tuple "Named" [Diagnostic.quoted name]
  | default => "Default"
  | asIs => "AsIs"
  | nested names => Diagnostic.tuple "Nested" [Diagnostic.sequence (names.map Diagnostic.quoted)]

end Access

/-- A package to import, and where to look inside it. -/
structure Step where
  specifier : String
  access : Access
  deriving DecidableEq, Repr

namespace Step

/-- The step as log lines name it. -/
def text (step : Step) : String :=
  match step.access with
  | .named name => step.specifier ++ "#" ++ name
  | .default => step.specifier ++ "#" ++ defaultExport
  | .asIs => step.specifier
  | .nested names => step.specifier ++ "#" ++ ".".intercalate names

def diagnostic (step : Step) : String :=
  Diagnostic.record "LoaderStep"
    [("specifier", Diagnostic.quoted step.specifier), ("access", step.access.diagnostic)]

end Step
end Loader
end NodeKeys
