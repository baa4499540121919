import Phrasebook.Scope
import Phrasebook.Settings

/-!
# Arguments of the command line

Arguments are taken from left to right. An option takes the rest of its argument, or else the next
argument, for its value; that value is only looked at when the next argument that counts has been
recognised, so an argument that nobody knows is reported before a value that does not fit.
Everything after `--` is a request, and there is at most one.
-/

namespace Phrasebook

/-- What the command line asks for. -/
structure Arguments where
  request : Option String := none
  layer : String := publicLayer
  context : List String := []
  aliases : Option String := none
  grants : List String := []
  output : Option OutputFormat := none
  check : Bool := false
  list : Bool := false
  verbose : Nat := 0
  quiet : Bool := false
  config : Option String := none
  noConfig : Bool := false
  showConfig : Bool := false
deriving DecidableEq, Repr

/-- Why arguments ask for nothing that can be done, or for a text about the program. -/
inductive UsageError where
  | unknownArgument
  | invalidValue
  | argumentConflict
  | tooManyValues
  | displayHelp
  | displayVersion
deriving DecidableEq, Repr

namespace Arguments

/-- The scope that the arguments ask for. -/
def scope (arguments : Arguments) : Scope :=
  ({ layer := arguments.layer } : Scope).addContexts arguments.context

/-- The options that take a value. -/
inductive Choice where
  | layer
  | context
  | aliases
  | grant
  | output
  | config
deriving DecidableEq

/-- The options that take none. -/
inductive Flag where
  | check
  | list
  | verbose
  | quiet
  | noConfig
  | showConfig
  | help
  | version
deriving DecidableEq

/-- An option of either sort. -/
inductive Switch where
  | choice (c : Choice)
  | flag (f : Flag)
deriving DecidableEq

/-- The options by the words after two dashes. -/
def longSwitches : List (String × Switch) :=
  [("layer", .choice .layer), ("context", .choice .context), ("aliases", .choice .aliases),
    ("grant", .choice .grant), ("output", .choice .output), ("config", .choice .config),
    ("check", .flag .check), ("list", .flag .list), ("verbose", .flag .verbose),
    ("quiet", .flag .quiet), ("no-config", .flag .noConfig), ("show-config", .flag .showConfig),
    ("help", .flag .help), ("version", .flag .version)]

/-- The options by the letters after one dash. -/
def shortSwitches : List (Char × Switch) :=
  [('l', .choice .layer), ('t', .choice .context), ('a', .choice .aliases), ('g', .choice .grant),
    ('o', .choice .output), ('v', .flag .verbose), ('q', .flag .quiet), ('h', .flag .help),
    ('V', .flag .version)]

/-- An option whose value is still to be looked at, or to come. -/
structure Pending where
  choice : Choice
  value : Option String

/-- Where reading arguments stands. -/
structure Reading where
  arguments : Arguments := {}
  /-- The options that were given. -/
  given : List Switch := []
  pending : Option Pending := none

/-- Reading goes on, or ends with an error. -/
abbrev Read := Except UsageError Reading

namespace Reading

/-- Notes that an option was given; only some may be given again. -/
def note (reading : Reading) (s : Switch) : Read :=
  if reading.given.contains s then .error .argumentConflict
  else .ok { reading with given := s :: reading.given }

/-- A path that may not be empty. -/
def pathValue (text : String) : Except UsageError String :=
  if text.isEmpty then .error .invalidValue else .ok text

/-- A format by its word. -/
def formatValue (text : String) : Except UsageError OutputFormat :=
  match OutputFormat.words.lookup text with
  | some format => .ok format
  | none => .error .invalidValue

/-- Takes the value of an option. -/
def choose (reading : Reading) (c : Choice) (text : String) : Read :=
  let set (change : Arguments → Except UsageError Arguments) : Read := do
    let noted ← reading.note (.choice c)
    return { noted with arguments := ← change noted.arguments }
  match c with
  | .layer => set fun a ↦ .ok { a with layer := text }
  | .context =>
    .ok { reading with arguments :=
      { reading.arguments with context := reading.arguments.context ++ [text] } }
  | .grant =>
    .ok { reading with arguments :=
      { reading.arguments with grants := reading.arguments.grants ++ [text] } }
  | .aliases => set fun a ↦ do return { a with aliases := some (← pathValue text) }
  | .output => set fun a ↦ do return { a with output := some (← formatValue text) }
  | .config => set fun a ↦ do return { a with config := some (← pathValue text) }

/-- Looks at the value of the pending option. -/
def settle (reading : Reading) : Read :=
  match reading.pending with
  | none => .ok reading
  | some ⟨_, none⟩ => .error .invalidValue
  | some ⟨c, some text⟩ => { reading with pending := none }.choose c text

/-- Takes an option without a value. -/
def raise (reading : Reading) (f : Flag) : Read := do
  let settled ← reading.settle
  let set (change : Arguments → Arguments) : Read := do
    let noted ← settled.note (.flag f)
    return { noted with arguments := change noted.arguments }
  match f with
  | .help => .error .displayHelp
  | .version => .error .displayVersion
  | .verbose =>
    return { settled with arguments :=
      { settled.arguments with verbose := min 255 (settled.arguments.verbose + 1) } }
  | .check => set fun a ↦ { a with check := true }
  | .list => set fun a ↦ { a with list := true }
  | .quiet => set fun a ↦ { a with quiet := true }
  | .noConfig => set fun a ↦ { a with noConfig := true }
  | .showConfig => set fun a ↦ { a with showConfig := true }

/-- Takes an option that has its value with it, or waits for the value. -/
def await (reading : Reading) (c : Choice) (attached : Option String) : Read := do
  let settled ← reading.settle
  match attached with
  | some text => settled.choose c text
  | none => return { settled with pending := some ⟨c, none⟩ }

/-- Takes an argument that starts with two dashes, without these. -/
def takeLong (reading : Reading) (text : List Char) : Read :=
  let name := String.ofList (text.takeWhile (· != '='))
  let attached := match text.dropWhile (· != '=') with
    | _ :: value => some (String.ofList value)
    | [] => none
  match longSwitches.lookup name with
  | none => .error .unknownArgument
  | some (.choice c) => reading.await c attached
  | some (.flag f) => if attached.isSome then .error .tooManyValues else reading.raise f

/-- Takes an argument that starts with one dash, without it. -/
def takeShort (reading : Reading) : List Char → Read
  | [] => .ok reading
  | letter :: rest =>
    match shortSwitches.lookup letter with
    | none => .error .unknownArgument
    | some (.flag f) => do takeShort (← reading.raise f) rest
    | some (.choice c) =>
      reading.await c <| match rest with
        | [] => none
        | '=' :: value => some (String.ofList value)
        | value => some (String.ofList value)

/-- Takes an argument that is a request. There may be no other. -/
def takeRequest (reading : Reading) (text : String) : Read :=
  if reading.arguments.request.isSome then .error .unknownArgument
  else do
    let settled ← reading.settle
    return { settled with arguments := { settled.arguments with request := some text } }

/-- Takes an argument that is the value of the pending option if that still waits for one, and a
request otherwise. -/
def takeText (reading : Reading) (text : String) : Read :=
  match reading.pending with
  | some ⟨c, none⟩ => .ok { reading with pending := some ⟨c, some text⟩ }
  | _ => reading.takeRequest text

/-- Takes all arguments; `plain` tells whether `--` was among those before. -/
def takeAll (plain : Bool) (reading : Reading) : List String → Read
  | [] => reading.settle
  | text :: rest =>
    if plain then do takeAll true (← reading.takeRequest text) rest
    else
      match text.toList with
      | ['-', '-'] => takeAll true reading rest
      | '-' :: '-' :: name => do takeAll false (← reading.takeLong name) rest
      | '-' :: letter :: letters => do
        takeAll false (← reading.takeShort (letter :: letters)) rest
      | _ => do takeAll false (← reading.takeText text) rest

end Reading

/-- Reads the arguments that follow the name of the program. -/
def parse (texts : List String) : Except UsageError Arguments :=
  (Reading.takeAll false {} texts).map Reading.arguments

end Arguments

end Phrasebook
