/-!
# Hosts

What a program needs from the machine that it runs on: files to read, files to append to, and the
time. Programs are written for any host, so that they can be run on a real machine and reasoned
about on one that is a plain value.
-/

namespace Phrasebook

/-- What a path may lead to. -/
inductive FileKind where
  | file
  | directory
deriving DecidableEq, Repr

/-- Why a file could not be read. -/
inductive FileError where
  | notFound
  | notDirectory
  | isDirectory
  | notText
  /-- No path can have a NUL in it. -/
  | nulInPath
  /-- Any other reason that the machine gives, with its number. -/
  | other (reason : String) (number : Nat)
deriving DecidableEq, Repr

/-- The reason in words. -/
def FileError.message : FileError → String
  | notFound => "No such file or directory (os error 2)"
  | notDirectory => "Not a directory (os error 20)"
  | isDirectory => "Is a directory (os error 21)"
  | notText => "stream did not contain valid UTF-8"
  | nulInPath => "file name contained an unexpected NUL byte"
  | other reason number => s!"{reason} (os error {number})"

/-- A machine with files and a clock. -/
class Host (m : Type → Type) where
  /-- What a path leads to, if anything. -/
  kindOf : String → m (Option FileKind)
  /-- The text of a file. -/
  read : String → m (Except FileError String)
  /-- Makes the directory and those above it that are missing, and tells whether it is there. -/
  makeDirectory : String → m Bool
  /-- Makes an empty file unless there is one, and tells whether it can be written to. -/
  openFile : String → m Bool
  /-- Writes at the end of a file that was opened. -/
  append : String → String → m Unit
  /-- The path of the directory from which paths lead that are not absolute. -/
  workingDirectory : m String
  /-- The time, in words. -/
  timestamp : m String

namespace Host

variable {m : Type → Type} [Monad m] [Host m]

/-- Whether a path leads to anything. -/
def pathExists (path : String) : m Bool := do return (← kindOf path).isSome

end Host

end Phrasebook
