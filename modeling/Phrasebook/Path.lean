import Phrasebook.Text.Blank

/-!
# Paths

A path is a text whose parts stand between slashes. Empty parts say nothing, and neither does a `.`
except at the start of a path that is not absolute.
-/

namespace Phrasebook.Path

/-- Whether the path starts at the root. -/
def isAbsolute (path : String) : Bool := path.toList.head? == some '/'

/-- The parts of a path as written, empty ones left out. -/
def pieces (path : String) : List String :=
  (Text.piecesBy (· = '/') path.toList).map String.ofList

/-- The parts that say something. -/
def components (path : String) : List String :=
  match isAbsolute path, pieces path with
  | false, "." :: rest => "." :: rest.filter (· != ".")
  | _, pieces => pieces.filter (· != ".")

/-- Whether two paths are the same but for parts that say nothing. -/
def same (a b : String) : Bool := isAbsolute a == isAbsolute b && components a == components b

/-- A path below another; an absolute path stays as it is. -/
def join (base path : String) : String :=
  if isAbsolute path || base.isEmpty then path
  else if base.toList.getLast? == some '/' then base ++ path
  else base ++ "/" ++ path

/-- The path without its last part. -/
def parent? (path : String) : Option String :=
  match (components path).reverse with
  | [] => none
  | _ :: before =>
    some ((if isAbsolute path then "/" else "") ++ String.intercalate "/" before.reverse)

/-- The path of a directory and the paths of those above it, the nearest first. -/
def upward (path : String) : List String :=
  let parts := components path
  (List.range (parts.length + 1)).reverse.map fun count ↦
    (if isAbsolute path then "/" else "") ++ String.intercalate "/" (parts.take count)

/-- The last part, if it is a name. -/
def fileName? (path : String) : Option String :=
  ((components path).getLast?).filter fun part ↦ part != "." && part != ".."

/-- What follows the last point in the last part. A point at its start does not count. -/
def extension? (path : String) : Option String :=
  match fileName? path with
  | none => none
  | some name =>
    let reversed := name.toList.reverse
    let ending := reversed.takeWhile (· != '.')
    match reversed.dropWhile (· != '.') with
    | _ :: _ :: _ => some (String.ofList ending.reverse)
    | _ => none

end Phrasebook.Path
