import Phrasebook.Json.Decoded
import Phrasebook.Path
import Phrasebook.Policy
import Phrasebook.Text.Blank

/-!
# Settings

Where the aliases are kept, how long they are held, where answers are recorded, and how they are
shown. Every setting has a default.
-/

namespace Phrasebook

/-- How answers are shown. -/
inductive OutputFormat where
  /-- As a report for a person. -/
  | full
  /-- As a JSON document. -/
  | json
deriving DecidableEq, Repr

/-- The formats by the words for them. -/
def OutputFormat.words : List (String × OutputFormat) := [("full", full), ("json", json)]

/-- The word for a format. -/
def OutputFormat.label : OutputFormat → String
  | full => "full"
  | json => "json"

namespace Settings

/-- Where the aliases are kept. -/
structure Store where
  path : String := "aliases.toml"

/-- How long the aliases are held, and how many suggestions are made. -/
structure Resolver where
  refreshSeconds : Nat := 60
  serveStaleOnError : Bool := true
  maxSuggestions : Nat := 3
deriving DecidableEq

/-- Where answers are recorded. -/
structure Logging where
  resolutionLog : Option String := none
deriving DecidableEq

/-- How answers are shown. -/
structure Output where
  format : Option OutputFormat := none
  color : Bool := true
deriving DecidableEq

end Settings

/-- All settings. -/
structure Settings where
  store : Settings.Store := {}
  resolver : Settings.Resolver := {}
  logging : Settings.Logging := {}
  output : Settings.Output := {}

namespace Settings

/-- The settings that hold where nothing else is said. -/
def default : Settings := {}

instance : Inhabited Settings := ⟨default⟩

/-- Whether two settings mean the same. -/
def same (a b : Settings) : Bool :=
  Path.same a.store.path b.store.path && a.resolver = b.resolver && a.logging = b.logging &&
    a.output = b.output

/-- What keeps settings from being used. -/
inductive Problem where
  | emptyStorePath
  | zeroMaxSuggestions
  | emptyResolutionLog
deriving DecidableEq, Repr

/-- The problem in words. -/
def Problem.message : Problem → String
  | emptyStorePath => "store.path cannot be empty"
  | zeroMaxSuggestions => "resolver.max_suggestions cannot be 0"
  | emptyResolutionLog => "logging.resolution_log cannot be empty (omit it to disable)"

/-- The first problem of some settings. -/
def problem? (settings : Settings) : Option Problem :=
  if settings.store.path.isEmpty then some .emptyStorePath
  else if settings.resolver.maxSuggestions = 0 then some .zeroMaxSuggestions
  else
    match settings.logging.resolutionLog with
    | some path => if (Text.trim path).isEmpty then some .emptyResolutionLog else none
    | none => none

/-- The policy that the settings ask for. -/
def policy (settings : Settings) : Policy where
  refreshInterval := some (settings.resolver.refreshSeconds * nanosecondsPerSecond)
  serveStale := settings.resolver.serveStaleOnError
  maxSuggestions := settings.resolver.maxSuggestions

/-- A path in which `~/` at the start stands for the home directory, if there is one. -/
def expandHome (home : Option String) (path : String) : String :=
  match home, path.toList with
  | some home, '~' :: '/' :: rest => Path.join home (String.ofList rest)
  | _, _ => path

/-- Where answers are recorded, if they are. -/
def logPath? (settings : Settings) (home : Option String) : Option String :=
  settings.logging.resolutionLog.map (expandHome home)

/-! ## Written form -/

/-- The written form of settings. -/
def toJson (settings : Settings) : Json :=
  .obj [
    ("store", .obj [("path", .str settings.store.path)]),
    ("resolver", .obj [("refresh_seconds", .int settings.resolver.refreshSeconds),
      ("serve_stale_on_error", .bool settings.resolver.serveStaleOnError),
      ("max_suggestions", .int settings.resolver.maxSuggestions)]),
    ("logging", .obj [("resolution_log", Json.ofOption .str settings.logging.resolutionLog)]),
    ("output", .obj [
      ("format", Json.ofOption (fun format ↦ .str format.label) settings.output.format),
      ("color", .bool settings.output.color)])]

/-- Reads the settings for the store. -/
def Store.decode (dialect : Dialect) : Json → Decoded Store :=
  Json.decodeRecord dialect 1 fun record ↦
    Store.mk <$> record.withDefault 0 "path" ({} : Store).path Json.decodeText

/-- Reads the settings for the resolver. -/
def Resolver.decode (dialect : Dialect) : Json → Decoded Resolver :=
  Json.decodeRecord dialect 3 fun record ↦
    Resolver.mk
      <$> record.withDefault 0 "refresh_seconds" ({} : Resolver).refreshSeconds
        (Json.decodeNat UInt64.size)
      <*> record.withDefault 1 "serve_stale_on_error" ({} : Resolver).serveStaleOnError
        Json.decodeBool
      <*> record.withDefault 2 "max_suggestions" ({} : Resolver).maxSuggestions
        (Json.decodeNat UInt64.size)

/-- Reads the settings for the journal. -/
def Logging.decode (dialect : Dialect) : Json → Decoded Logging :=
  Json.decodeRecord dialect 1 fun record ↦
    Logging.mk <$> record.optional 0 "resolution_log" Json.decodeText

/-- Reads the settings for what is shown. -/
def Output.decode (dialect : Dialect) : Json → Decoded Output :=
  Json.decodeRecord dialect 2 fun record ↦
    Output.mk <$> record.optional 0 "format" (Json.decodeWord dialect OutputFormat.words)
      <*> record.withDefault 1 "color" ({} : Output).color Json.decodeBool

/-- Reads settings. What is not given has its default. -/
def decode (dialect : Dialect) : Json → Decoded Settings :=
  Json.decodeRecord dialect 4 fun record ↦
    Settings.mk <$> record.withDefault 0 "store" {} (Store.decode dialect)
      <*> record.withDefault 1 "resolver" {} (Resolver.decode dialect)
      <*> record.withDefault 2 "logging" {} (Logging.decode dialect)
      <*> record.withDefault 3 "output" {} (Output.decode dialect)

end Settings

end Phrasebook
