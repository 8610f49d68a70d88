import NodeKeys.Config.Document
import NodeKeys.Config.Location
import NodeKeys.Error

/-!
# Loading the configuration

Only the designated file is looked at.  If it cannot be read or is no configuration, this is an error and
never the default configuration.
-/

namespace NodeKeys

/-- Why the configuration could not be loaded. -/
inductive ConfigError where
  | read (path : String) (fault : ReadFault)
  | parse (path : String) (error : DocumentError)
  deriving DecidableEq, Repr

namespace ConfigError

def message : ConfigError → String
  | read path fault => s!"Failed to read config {path}: {fault.message}"
  | parse path error => s!"Failed to parse config {path}: {error.wording}"

def causes : ConfigError → List String
  | read _ fault => [fault.message]
  | parse _ error => [error.wording]

def toKeygenError (error : ConfigError) : KeygenError :=
  .config error.message

end ConfigError

namespace Config

def ofFile (files : FileView) (path : String) : Except ConfigError Config := do
  let text ← (files.readText path).mapError (.read path)
  (ofToml text).mapError (.parse path)

/-- Load the configuration; without a designated file it is the default one. -/
def load (environment : Environment) (files : FileView) (explicit : Option String) :
    Except ConfigError Config :=
  match environment.designatedFile? files explicit with
  | some path => ofFile files path
  | none => .ok {}

end Config
end NodeKeys
