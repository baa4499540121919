import Phrasebook.Alias.Form
import Phrasebook.Host
import Phrasebook.Json.Reader
import Phrasebook.Path
import Phrasebook.Store
import Phrasebook.Toml.Reader

/-!
# Alias files

A phrasebook is kept in one file: a TOML document with a table for each alias, or a JSON document
with a list of them or an object that has the list under `alias`. The ending of the file's name
tells which.
-/

namespace Phrasebook

/-- The formats of alias files. -/
inductive AliasFormat where
  | toml
  | json
deriving DecidableEq, Repr

namespace AliasFormat

/-- The format of the file with the given path: JSON when its name ends so, and TOML otherwise. -/
def ofPath (path : String) : AliasFormat :=
  match Path.extension? path with
  | some ending => if ending.toList.map Char.toLower = ['j', 's', 'o', 'n'] then json else toml
  | none => toml

end AliasFormat

namespace AliasFile

/-- Reads an object with the aliases under `alias`. -/
def decodeTable (dialect : Dialect) : Json → Decoded (List Alias) :=
  Json.decodeRecord dialect 1 fun record ↦
    record.withDefault 0 "alias" [] (Json.decodeList (Alias.decode dialect))

/-- Reads a list of aliases. -/
def decodeList (dialect : Dialect) : Json → Decoded (List Alias) :=
  Json.decodeList (Alias.decode dialect)

/-- Reads a JSON document: a list of aliases, or else an object with them. -/
def decodeDocument (document : Json) : Decoded (List Alias) :=
  match decodeList .nested document with
  | .ok aliases => .ok aliases
  | .fault _ => decodeTable .nested document

/-- Reads the text of an alias file. -/
def parse? (format : AliasFormat) (text : String) : Option (List Alias) :=
  match format with
  | .json => (Json.read? text).bind fun document ↦ (decodeDocument document).toOption
  | .toml => (Toml.read? text).bind fun document ↦ (decodeTable .toml document).toOption

/-- What is in a file whose text was read, or could not be. -/
def contents (path : String) (text : Except FileError String) : Except StoreError (List Alias) :=
  match text with
  | .error error => .error (.unavailable s!"{path}: {error.message}")
  | .ok text =>
    match parse? (AliasFormat.ofPath path) text with
    | some aliases => .ok aliases
    | none => .error (.malformed s!"{path}: not a list of aliases")

/-- Loads the file with the given path. -/
def load {m : Type → Type} [Monad m] [Host m] (path : String) :
    m (Except StoreError (List Alias)) := do
  return contents path (← Host.read path)

end AliasFile

end Phrasebook
