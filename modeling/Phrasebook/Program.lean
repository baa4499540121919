import Phrasebook.AliasFile
import Phrasebook.Arguments
import Phrasebook.Journal
import Phrasebook.Report
import Phrasebook.Session
import Phrasebook.Settings.Loading

/-!
# The program

One run of the program answers one request, lists the aliases that a caller may use, or checks an
alias file. A run has an output, perhaps a failure, and a status for whoever started it.

What a run tells about its progress, for whoever looks for the reasons of something, is left out.
The arguments that say how much of that is to be told, `verbose` and `quiet`, are read and make no
difference. In the same way arguments that cannot be used are told by the status alone, without the
words for what is wrong with them.
-/

namespace Phrasebook.Program

open Settings (Environment)

/-- What went wrong, and what that was caused by. -/
structure Failure where
  message : String
  cause : Option String := none
deriving DecidableEq

/-- The failure as it is shown, the lines of the cause set in. -/
def Failure.display (failure : Failure) : String :=
  match failure.cause with
  | none => s!"Error: {failure.message}"
  | some cause =>
    s!"Error: {failure.message}\n\nCaused by:\n    " ++
      String.intercalate "\n    " (cause.splitOn "\n")

/-- What a run comes to. -/
structure Run where
  output : String := ""
  failure : Option Failure := none
  status : Nat := 0

/-- A run that fails after some output. -/
def failed (message : String) (cause : Option String := none) (output : String := "") : Run where
  output := output
  failure := some ⟨message, cause⟩
  status := 1

/-- A run that ends at once, with nothing to say. -/
def broken : Run where
  status := 101

/-- The name of the program and its version. -/
def versionLine : String := "alias-router 0.4.0"

/-- How the program is called. -/
def usage : String :=
  "Resolve natural-language requests to tool-call plans\n\nUsage: alias-router [OPTIONS] [REQUEST]"

/-- Whether styles are shown, when the output does not go to a terminal: only when the settings
allow it and the environment asks for it. -/
def showsStyles (environment : Environment) (settings : Settings) : Bool :=
  settings.output.color &&
    match environment.get? "CLICOLOR_FORCE" with
    | some text => text != "0"
    | none => false

/-- A failure of the store, as the failure of a request. -/
def requestFailure (error : StoreError) : Run :=
  failed (Session.failureMessage error) (some error.message)

/-- Checks the aliases of a file. When there are faults these are shown, and otherwise the
warnings. -/
def checkFile (painter : Report.Painter) (path : String)
    (loaded : Except StoreError (List Alias)) : Run :=
  match loaded with
  | .error error => failed error.message
  | .ok aliases =>
    match Snapshot.buildStrict 0 aliases with
    | .ok snapshot => { output := painter.issues snapshot.issues aliases.length }
    | .error issues =>
      failed s!"{path}: {Snapshot.strictMessage issues}" none
        (painter.issues issues aliases.length)

/-- Lists the aliases that take part for the caller. -/
def listAliases (painter : Report.Painter) (session : Session) (scope : Scope) : Run :=
  match session.current.1 with
  | .error error => requestFailure error
  | .ok served => { output := painter.entries (served.snapshot.eligible scope) }

/-- The output for an answer. -/
def render (painter : Report.Painter) (format : OutputFormat) (request : String) (answer : Answer)
    (grants : List String) : String :=
  match format with
  | .full => painter.answer request answer grants
  | .json => Report.document answer

section

variable {m : Type → Type} [Monad m] [Host m]

/-- A session over the aliases of a file. -/
def openSession (settings : Settings) (path : String) : m Session := do
  let store : Store := match ← AliasFile.load path with
    | .ok aliases => { aliases := aliases }
    | .error error => { fault := some error }
  return { policy := settings.policy, store := store }

/-- Opens the journal that the settings ask for, if they do and it can be written to. -/
def openJournal (environment : Environment) (settings : Settings) : m (Option String) := do
  match settings.logPath? environment.home? with
  | none => return none
  | some path => do if ← Journal.start path then return some path else return none

/-- Answers a request and writes the event into the journal. -/
def answerRequest (painter : Report.Painter) (session : Session) (journal : Option String)
    (format : OutputFormat) (arguments : Arguments) (request : String) : m Run := do
  let (answer, session) := session.execute request arguments.scope
  match journal with
  | some path => Journal.writeAll path session.journal
  | none => pure ()
  match answer with
  | .error error => return requestFailure error
  | .ok answer =>
    return { output := render painter format request answer arguments.grants ++ "\n" }

/-- Does what the arguments ask for, under the given settings. -/
def runWith (environment : Environment) (settings : Settings) (arguments : Arguments) : m Run := do
  let painter : Report.Painter := ⟨showsStyles environment settings⟩
  let path := arguments.aliases.getD settings.store.path
  let format := arguments.output.getD (settings.output.format.getD .full)
  if arguments.check then return checkFile painter path (← AliasFile.load path)
  else
    let journal ← openJournal environment settings
    if arguments.list then
      return listAliases painter (← openSession settings path) arguments.scope
    else
      match arguments.request with
      | none => return failed "A request is required. Use --list to see available aliases."
      | some request =>
        answerRequest painter (← openSession settings path) journal format arguments request

/-- Does what the arguments ask for. -/
def runArguments (environment : Environment) (arguments : Arguments) : m Run := do
  if arguments.showConfig then
    let lines ← Settings.describeSources environment arguments.config
    return { output := String.join (lines.map (· ++ "\n")) }
  else
    let loaded ←
      if arguments.noConfig then pure (.ok Settings.default)
      else Settings.load environment arguments.config
    match loaded with
    | .error .tornText => return broken
    | .error error => return failed s!"Failed to load configuration: {error.message}"
    | .ok settings =>
      match settings.problem? with
      | some problem => return failed "Invalid configuration" (some problem.message)
      | none => runWith environment settings arguments

/-- Runs the program with the arguments that follow its name. -/
def run (environment : Environment) (texts : List String) : m Run := do
  match Arguments.parse texts with
  | .ok arguments => runArguments environment arguments
  | .error .displayVersion => return { output := versionLine ++ "\n" }
  | .error .displayHelp => return { output := usage ++ "\n" }
  | .error _ => return { status := 2 }

end

end Phrasebook.Program
