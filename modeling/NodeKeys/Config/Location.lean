import NodeKeys.Files.View

/-!
# Where the configuration is

A configuration file may be named on the command line or by an environment variable; such a file has to
exist.  Otherwise there is a default place, and nothing is wrong if no file is there.
-/

namespace NodeKeys

/-- What a process is told by its surroundings. -/
structure Environment where
  /-- The value of an environment variable, if it is set. -/
  get? : String → Option String
  /-- The home directory that belongs to the account. -/
  accountHome : Option String := none

namespace Environment

def configVariable : String := "PANELKEY_CONFIG"

def below (directory name : String) : String :=
  if directory.endsWith "/" then directory ++ name else directory ++ "/" ++ name

/-- The home directory: the one that is set, unless the setting is empty, or that of the account. -/
def home? (environment : Environment) : Option String :=
  ((environment.get? "HOME").filter (· ≠ "")).or environment.accountHome

/-- The directory of configurations.  A relative setting is not used. -/
def configDirectory? (environment : Environment) : Option String :=
  ((environment.get? "XDG_CONFIG_HOME").filter fun path => path.startsWith "/").or
    (environment.home?.map fun home => below home ".config")

def defaultPath? (environment : Environment) : Option String :=
  environment.configDirectory?.map fun directory => below (below directory "panelkey") "config.toml"

/-- The file that is to be loaded: the one that is named explicitly, else the one that the variable names,
whatever it holds, else the one in the default place if there is a file. -/
def designatedFile? (environment : Environment) (files : FileView) (explicit : Option String) :
    Option String :=
  match explicit, environment.get? configVariable with
  | some path, _ => some path
  | none, some path => some path
  | none, none => environment.defaultPath?.filter files.isFile

end Environment
end NodeKeys
