import NodeKeys.Files.View

/-!
# A tree of files

A tree is given by the places of its files and directories.  The directories above them exist too, and the
root always does.  A path is followed name by name, and each step has to start in a directory, also a step that
stays there or goes up.  There are no links.
-/

namespace NodeKeys

/-- Where something is: the names from the root down. -/
abbrev Place : Type := List String

/-- Files and directories, and the directory in which relative paths begin. -/
structure FileTree where
  files : List (Place × List UInt8) := []
  directories : List Place := []
  workingDirectory : Place := []

namespace FileTree

/-- What lies at a place. -/
inductive Item where
  | directory
  | file (content : List UInt8)
  deriving DecidableEq, Repr

def parts (path : String) : List String :=
  path.splitOn "/"

/-- The place that a path is written for, read from the root. -/
def placeOf (path : String) : Place :=
  (parts path).filter (· ≠ "")

/-- Whether something lies at a place or below it. -/
def holds (tree : FileTree) (place : Place) : Bool :=
  place.isEmpty
    || (tree.files.map Prod.fst ++ tree.directories ++ [tree.workingDirectory]).any place.isPrefixOf

def item? (tree : FileTree) (place : Place) : Option Item :=
  match tree.files.find? fun entry => entry.1 == place with
  | some (_, content) => some (.file content)
  | none => if tree.holds place then some .directory else none

def nameLimit : Nat := 255

def pathLimit : Nat := 4095

def follow (tree : FileTree) : Place → List String → Except ReadFault Item
  | place, [] =>
    match tree.item? place with
    | some item => .ok item
    | none => .error .missing
  | place, part :: rest =>
    match tree.item? place with
    | none => .error .missing
    | some (.file _) => .error .notADirectory
    | some .directory =>
      if part = "" || part = "." then tree.follow place rest
      else if part = ".." then tree.follow place.dropLast rest
      else if nameLimit < part.utf8ByteSize then .error .nameTooLong
      else tree.follow (place ++ [part]) rest

/-- What a path leads to.  The empty path leads nowhere. -/
def lookUp (tree : FileTree) (path : String) : Except ReadFault Item :=
  if path.contains '\x00' then .error .zeroInPath
  else if path.isEmpty then .error .missing
  else if pathLimit < path.utf8ByteSize then .error .nameTooLong
  else
    let start := if path.startsWith "/" then [] else tree.workingDirectory
    tree.follow start (parts path)

/-- The tree as far as it can be seen. -/
def view (tree : FileTree) : FileView where
  read path := do
    match ← tree.lookUp path with
    | .file content => return content
    | .directory => throw .isADirectory
  isFile path :=
    match tree.lookUp path with
    | .ok (.file _) => true
    | _ => false

end FileTree
end NodeKeys
