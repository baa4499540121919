import Phrasebook.Clock
import Phrasebook.Program
import Std.Time.DateTime.Timestamp

/-!
# Command line

Runs the program on the real machine. Everything that is decided is decided in `Phrasebook.Program`;
here files are read and written, the environment and the clock are looked at, and the outcome is
printed.
-/

namespace Phrasebook

/-- The reason for a failure, by its number if there is one. -/
def fileError (number : UInt32) (reason : String) : FileError :=
  let n := if number.toNat < 0x80000000 then number.toNat else UInt32.size - number.toNat
  if n = 2 then .notFound
  else if n = 20 then .notDirectory
  else if n = 21 then .isDirectory
  else .other reason.capitalize n

/-- Why a file could not be read. -/
def fileErrorOf : IO.Error → FileError
  | .noFileOrDirectory _ n reason | .interrupted _ n reason => fileError n reason
  | .alreadyExists _ n reason | .invalidArgument _ n reason | .permissionDenied _ n reason
  | .resourceExhausted _ n reason | .inappropriateType _ n reason
  | .noSuchThing _ n reason => fileError n reason
  | .otherError n reason | .resourceBusy n reason | .resourceVanished n reason
  | .unsupportedOperation n reason | .hardwareFault n reason | .unsatisfiedConstraints n reason
  | .illegalOperation n reason | .protocolError n reason | .timeExpired n reason =>
    fileError n reason
  | .unexpectedEof | .userError _ => .notText

/-- What an action gives, or why it fails. -/
def attempt {α : Type} (action : IO α) : IO (Except FileError α) := do
  match ← action.toBaseIO with
  | .ok a => return .ok a
  | .error error => return .error (fileErrorOf error)

/-- Whether an action succeeds. -/
def succeeds {α : Type} (action : IO α) : IO Bool := do
  match ← action.toBaseIO with
  | .ok _ => return true
  | .error _ => return false

instance : Host IO where
  kindOf path := do
    let first : IO ByteArray := do (← IO.FS.Handle.mk path .read).read 1
    match ← attempt first with
    | .ok _ => return some .file
    | .error .isDirectory => return some .directory
    | .error _ => return if ← succeeds (IO.FS.realPath path) then some .file else none
  read path := attempt (IO.FS.readFile path)
  makeDirectory path := succeeds (IO.FS.createDirAll path)
  openFile path := succeeds (IO.FS.Handle.mk path .append)
  append path text := do
    let _ ← succeeds do (← IO.FS.Handle.mk path .append).putStr text
  workingDirectory := do
    match ← attempt IO.currentDir with
    | .ok directory => return toString directory
    | .error _ => return ""
  timestamp := do
    let now ← Std.Time.Timestamp.now
    return Clock.text now.toMillisecondsSinceUnixEpoch.toInt.toNat

/-- The variables of the process. -/
def readEnvironment : IO Settings.Environment := do
  match ← attempt (IO.FS.readFile "/proc/self/environ") with
  | .error _ => return []
  | .ok text => return (Text.piecesBy (· = '\x00') text.toList).map fun entry ↦
      (String.ofList (entry.takeWhile (· != '=')),
        String.ofList ((entry.dropWhile (· != '=')).drop 1))

end Phrasebook

/-- Runs the program with the given arguments. -/
def main (arguments : List String) : IO UInt32 := do
  let environment ← Phrasebook.readEnvironment
  let run : Phrasebook.Program.Run ← Phrasebook.Program.run environment arguments
  (← IO.getStdout).putStr run.output
  match run.failure with
  | some failure => (← IO.getStderr).putStrLn failure.display
  | none => pure ()
  return UInt32.ofNat run.status
