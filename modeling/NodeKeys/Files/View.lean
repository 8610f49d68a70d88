import NodeKeys.Utf8

/-!
# What can be seen of a file system

Loading a configuration asks two things of the file system: what a file holds, and whether a path leads to
a file at all.  Everything else about the file system is left open.
-/

namespace NodeKeys

/-- Why a file could not be read. -/
inductive ReadFault where
  | missing
  /-- The path goes on after a file. -/
  | notADirectory
  | isADirectory
  /-- The path, or a name in it, is longer than the system allows. -/
  | nameTooLong
  /-- The path holds the character that ends paths. -/
  | zeroInPath
  /-- The content is no UTF-8. -/
  | notText
  /-- Any other reason, in words. -/
  | other (reason : String)
  deriving DecidableEq, Repr

def ReadFault.message : ReadFault → String
  | missing => "No such file or directory (os error 2)"
  | notADirectory => "Not a directory (os error 20)"
  | isADirectory => "Is a directory (os error 21)"
  | nameTooLong => "File name too long (os error 36)"
  | zeroInPath => "file name contained an unexpected NUL byte"
  | notText => "stream did not contain valid UTF-8"
  | other reason => reason

/-- What can be seen of a file system. -/
structure FileView where
  /-- The content of the file that a path leads to. -/
  read : String → Except ReadFault (List UInt8)
  /-- Whether a path leads to a file. -/
  isFile : String → Bool

def FileView.readText (files : FileView) (path : String) : Except ReadFault String := do
  match Utf8.text? (← files.read path) with
  | some text => return text
  | none => throw .notText

end NodeKeys
