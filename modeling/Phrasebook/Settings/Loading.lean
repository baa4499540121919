import Phrasebook.Host
import Phrasebook.Settings
import Phrasebook.Settings.Variable
import Phrasebook.Toml.Reader

/-!
# Loading settings

Settings come from several sources. Each sets some values and leaves the others alone; where two set
the same value the later source wins: first the defaults, then the file of the user, that of the
project, one that is named explicitly, and last the environment.
-/

namespace Phrasebook.Settings

/-! ## Merging -/

/-- Puts a value under a name, replacing what stood there. -/
def putField (name : String) (value : Json) : List (String × Json) → List (String × Json)
  | [] => [(name, value)]
  | field :: rest =>
    if field.1 = name then (name, value) :: rest else field :: putField name value rest

mutual

/-- Lays one value over another. Objects are laid over each other field by field. -/
def merge (under : Json) : Json → Json
  | .obj upper =>
    match under with
    | .obj fields => .obj (mergeFields fields upper)
    | _ => .obj upper
  | value => value

/-- Lays some fields over others. -/
def mergeFields (fields : List (String × Json)) : List (String × Json) → List (String × Json)
  | [] => fields
  | (name, value) :: rest =>
    let merged := match fields.lookup name with
      | some under => merge under value
      | none => value
    mergeFields (putField name merged fields) rest

end

/-- The settings that sources give together, later ones laid over earlier ones. -/
def mergeAll (sources : List Json) : Json := sources.foldl merge (.obj [])

/-! ## Stand-ins -/

/-- The name of the field for which the whole table around it stands. -/
def standInName : String := "___figment_value_value"

/-- The name that no field of a table may have. -/
def refusedName : String := "___figment_value_id"

mutual

/-- The value with each table that stands for one of its fields replaced by that field, if no field
has the refused name. -/
def unwrap? : Json → Option Json
  | .obj fields =>
    (unwrapFields? fields).map fun fields ↦ (fields.lookup standInName).getD (.obj fields)
  | .arr items => (unwrapItems? items).map .arr
  | value => some value

/-- `unwrap?` on every item. -/
def unwrapItems? : List Json → Option (List Json)
  | [] => some []
  | item :: rest => (unwrap? item).bind fun first ↦ (unwrapItems? rest).map (first :: ·)

/-- `unwrap?` on the value of every field. -/
def unwrapFields? : List (String × Json) → Option (List (String × Json))
  | [] => some []
  | (name, value) :: rest =>
    if name = refusedName then none
    else (unwrap? value).bind fun first ↦ (unwrapFields? rest).map ((name, first) :: ·)

end

/-- `unwrap?` on the value of every field of a document, whose own fields have no special names. -/
def unwrapDocument? : Json → Option Json
  | .obj fields => (fields.mapM fun field ↦ (unwrap? field.2).map (field.1, ·)).map .obj
  | value => some value

/-! ## Sources -/

/-- Why settings could not be loaded. -/
inductive LoadError where
  /-- The file that was named explicitly is not there. -/
  | missingFile (path : String)
  /-- A file cannot be read as TOML. -/
  | unreadable (path : String)
  /-- A text in the environment would have to end inside a character. -/
  | tornText
  /-- A value is not what it has to be. -/
  | fault (fault : Fault)
deriving DecidableEq

/-- The failure in words. -/
def LoadError.message : LoadError → String
  | missingFile path => s!"config file not found: {path}"
  | unreadable path => s!"{path} is not a TOML document"
  | tornText => "a text ends inside a character"
  | fault error => "invalid value for " ++ String.intercalate "." error.path

/-- The value of a variable. -/
def Environment.get? (environment : Environment) (name : String) : Option String :=
  environment.lookup name

/-- The home directory, as far as the variables tell. With `HOME` unset or empty there is none; what
the password database of the system has for the user is not asked. -/
def Environment.home? (environment : Environment) : Option String :=
  (environment.get? "HOME").filter fun path ↦ !path.isEmpty

/-- The directory for the settings of a user. -/
def Environment.configDirectory? (environment : Environment) : Option String :=
  match (environment.get? "XDG_CONFIG_HOME").filter Path.isAbsolute with
  | some path => some path
  | none => environment.home?.map (Path.join · ".config")

/-- The file with the settings of a user. -/
def Environment.globalPath? (environment : Environment) : Option String :=
  environment.configDirectory?.map
    fun path ↦ Path.join (Path.join path "alias-router") "config.toml"

/-- The settings that the environment gives, if no text in them is torn. -/
def Environment.settings? (environment : Environment) : Option Json :=
  let given := environment.filterMap fun (name, text) ↦ (Variable.path? name).map (·, text)
  (given.mapM fun entry ↦ Variable.settings? entry.1 entry.2).map mergeAll

/-- The files that may hold the settings of a project, in the order in which they are looked for. -/
def projectPaths : List String := ["alias-router.toml", ".alias-router.toml"]

section

variable {m : Type → Type} [Monad m] [Host m]

/-- The first of some paths that leads to what is looked for. -/
def firstLeading (fits : FileKind → Bool) : List String → m (Option String)
  | [] => pure none
  | path :: rest => do
    if (← Host.kindOf path).any fits then return some path else firstLeading fits rest

/-- The file with the settings of the project. -/
def projectPath? : m (Option String) := firstLeading (fun _ ↦ true) projectPaths

/-- The places where a file with the given path may stand. A path that is not absolute is followed
from the working directory, and from each directory above that. -/
def places (directory path : String) : List String :=
  if Path.isAbsolute path then [path] else (Path.upward directory).map (Path.join · path)

/-- The settings that a file gives. Where there is no file there are none. -/
def fileSettings (path : String) : m (Except LoadError Json) := do
  match ← firstLeading (· = .file) (places (← Host.workingDirectory) path) with
  | some place =>
    match ← Host.read place with
    | .ok text =>
      return ((Toml.read? text).bind unwrapDocument?).elim (.error (.unreadable path)) .ok
    | .error _ => return .error (.unreadable path)
  | none => return .ok (.obj [])

/-- The settings that each of some files gives. -/
def filesSettings : List String → m (Except LoadError (List Json))
  | [] => pure (.ok [])
  | path :: rest => do
    let first ← fileSettings path
    let more ← filesSettings rest
    return do return (← first) :: (← more)

/-- The files that settings are loaded from, in order. -/
def sourcePaths (environment : Environment) (explicit : Option String) : m (List String) := do
  let global ← match environment.globalPath? with
    | some path => do if ← Host.pathExists path then pure [path] else pure []
    | none => pure []
  let project ← projectPath?
  return global ++ project.toList ++ explicit.toList

/-- The explicitly named file, if it is not there. -/
def missingFile? : Option String → m (Option String)
  | some path => do if ← Host.pathExists path then pure none else pure (some path)
  | none => pure none

/-- The settings that some files, laid over the defaults, and those laid over them in turn give
together. -/
def combine (files : List Json) (upper : Json) : Except LoadError Settings :=
  match decode .settings (mergeAll (default.toJson :: files ++ [upper])) with
  | .ok settings => .ok settings
  | .fault fault => .error (.fault fault)

/-- Loads the settings, with those of an explicitly named file if there is one. A torn text counts
for more than a file that cannot be read. -/
def load (environment : Environment) (explicit : Option String) :
    m (Except LoadError Settings) := do
  match ← missingFile? explicit with
  | some path => return .error (.missingFile path)
  | none =>
    let files ← filesSettings (← sourcePaths environment explicit)
    match environment.settings? with
    | some given => return files.bind (combine · given)
    | none => return .error .tornText

/-- Tells from where settings are loaded, a source on each line, the strongest first. -/
def describeSources (environment : Environment) (explicit : Option String) : m (List String) := do
  let explicitLine ← match explicit with
    | some path => do
      let mark := if ← Host.pathExists path then "FOUND" else "MISS "
      pure [s!"  [{mark}] Explicit: {path}"]
    | none => pure []
  let projectLine := match ← projectPath? with
    | some path => s!"  [FOUND] Project: {path}"
    | none => "  [     ] Project: " ++ String.intercalate " or " (projectPaths.map ("./" ++ ·))
  let globalLine ← match environment.globalPath? with
    | some path => do
      let mark := if ← Host.pathExists path then "FOUND" else "     "
      pure [s!"  [{mark}] Global:  {path}"]
    | none => pure []
  return ["Configuration sources (in priority order):", s!"  [ENV  ] {variableStart}*"] ++
    explicitLine ++ [projectLine] ++ globalLine ++ ["  [     ] Default: built-in defaults"]

end

end Phrasebook.Settings
