import Phrasebook.Event.Form
import Phrasebook.Host
import Phrasebook.Path

/-!
# Journals

A journal is a file with one line for each event. Opening it makes the file and the directories
above it if they are missing; what it holds already stays.

Every line is written through at once. Nothing is held back, so nothing is left to be written when a
journal is closed, and closing it is no operation here. Writing is never reported as failed: a
record of what happened is not to disturb what happens.
-/

namespace Phrasebook.Journal

variable {m : Type → Type} [Monad m] [Host m]

/-- Opens the journal with the given path, and tells whether it can be written to. -/
def start (path : String) : m Bool := do
  let ready ← match Path.parent? path with
    | some parent => if parent.isEmpty then pure true else Host.makeDirectory parent
    | none => pure true
  if ready then Host.openFile path else pure false

/-- Writes the line of an event. -/
def write (path : String) (event : Event) : m Unit := do
  let time ← Host.timestamp
  Host.append path (event.line time ++ "\n")

/-- Writes the lines of some events, in order. -/
def writeAll (path : String) : List Event → m Unit
  | [] => pure ()
  | event :: rest => do
    write path event
    writeAll path rest

end Phrasebook.Journal
