import Phrasebook.Host
import Phrasebook.Path

/-!
# File trees

A machine as a plain value: files and directories under one root, a working directory, and a clock
that stands still. As on most machines, there is a limit to the length of a name and of a path.
-/

namespace Phrasebook

/-- What stands at a place of a tree. -/
inductive FileNode where
  | file (text : String)
  | directory
deriving DecidableEq

/-- The names that lead from the root to a place. -/
abbrev Location := List String

/-- Files and directories under one root. -/
structure FileTree where
  nodes : List (Location × FileNode)
  workingDirectory : Location
  clock : String := ""

namespace FileTree

/-- What stands at a place. The root is a directory. -/
def nodeAt? (tree : FileTree) (location : Location) : Option FileNode :=
  if location.isEmpty then some .directory else tree.nodes.lookup location

/-- Puts something at a place. -/
def putAt (tree : FileTree) (location : Location) (node : FileNode) : FileTree :=
  { tree with nodes := (location, node) :: tree.nodes.filter fun entry ↦ entry.1 != location }

/-- Takes away what stands at a place. -/
def eraseAt (tree : FileTree) (location : Location) : FileTree :=
  { tree with nodes := tree.nodes.filter fun entry ↦ entry.1 != location }

/-- The place from which a path starts. -/
def start (tree : FileTree) (path : String) : Location :=
  if Path.isAbsolute path then [] else tree.workingDirectory

/-- The longest name, in bytes. -/
def longestName : Nat := 255

/-- The longest path, in bytes. -/
def longestPath : Nat := 4095

/-- What is wrong with a path that is too long, or has a name that is. -/
def tooLong : FileError := .other "File name too long" 36

/-- What is wrong with a path wherever it leads. -/
def fault? (path : String) : Option FileError :=
  if path.toList.contains '\x00' then some .nulInPath
  else if path.isEmpty then some .notFound
  else if longestPath < path.utf8ByteSize then some tooLong
  else none

/-- The steps of a path. A slash at the end asks for a directory, as a step to `.` does. -/
def steps (path : String) : List String :=
  Path.pieces path ++ if path.toList.getLast? == some '/' then ["."] else []

/-- The place that some steps lead to. Each has to be taken from a directory; there need not be
anything at the place itself. -/
def walk (tree : FileTree) : Location → List String → Except FileError Location
  | here, [] => .ok here
  | here, step :: rest =>
    match tree.nodeAt? here with
    | none => .error .notFound
    | some (.file _) => .error .notDirectory
    | some .directory =>
      if step = "." then walk tree here rest
      else if step = ".." then walk tree here.dropLast rest
      else if longestName < step.utf8ByteSize then .error tooLong
      else walk tree (here ++ [step]) rest

/-- The place that a path leads to. -/
def locate (tree : FileTree) (path : String) : Except FileError Location :=
  match fault? path with
  | some error => .error error
  | none => tree.walk (tree.start path) (steps path)

/-- What a path leads to. -/
def kindOf (tree : FileTree) (path : String) : Option FileKind :=
  match tree.locate path with
  | .error _ => none
  | .ok location =>
    match tree.nodeAt? location with
    | none => none
    | some (.file _) => some .file
    | some .directory => some .directory

/-- The text of a file. -/
def read (tree : FileTree) (path : String) : Except FileError String :=
  match tree.locate path with
  | .error error => .error error
  | .ok location =>
    match tree.nodeAt? location with
    | none => .error .notFound
    | some .directory => .error .isDirectory
    | some (.file text) => .ok text

/-- Makes the directories on the way of some steps, and tells whether all are there. -/
def makeWay (tree : FileTree) : Location → List String → Bool × FileTree
  | _, [] => (true, tree)
  | here, step :: rest =>
    if step = "." then makeWay tree here rest
    else if step = ".." then makeWay tree here.dropLast rest
    else if longestName < step.utf8ByteSize then (false, tree)
    else
      let next := here ++ [step]
      match tree.nodeAt? next with
      | some (.file _) => (false, tree)
      | some .directory => makeWay tree next rest
      | none => makeWay (tree.putAt next .directory) next rest

/-- Makes a directory and those above it. There is nothing to make for an empty path. -/
def makeDirectory (tree : FileTree) (path : String) : Bool × FileTree :=
  if !path.isEmpty && (fault? path).isSome then (false, tree)
  else tree.makeWay (tree.start path) (Path.pieces path)

/-- Makes an empty file unless there is one. -/
def openFile (tree : FileTree) (path : String) : Bool × FileTree :=
  match tree.locate path with
  | .error _ => (false, tree)
  | .ok location =>
    match tree.nodeAt? location with
    | none => (true, tree.putAt location (.file ""))
    | some (.file _) => (true, tree)
    | some .directory => (false, tree)

/-- Writes at the end of a file. -/
def append (tree : FileTree) (path text : String) : FileTree :=
  match tree.locate path with
  | .error _ => tree
  | .ok location =>
    match tree.nodeAt? location with
    | some (.file before) => tree.putAt location (.file (before ++ text))
    | _ => tree

/-- Puts a file at a path, with the directories above it. A path that ends with a slash is that of
an empty directory. A directory that stands at the path stays. -/
def put (tree : FileTree) (path text : String) : FileTree :=
  if path.toList.getLast? == some '/' then (tree.makeDirectory path).2
  else
    let tree := match Path.parent? path with
      | some parent => (tree.makeDirectory parent).2
      | none => tree
    match tree.locate path with
    | .ok location =>
      match tree.nodeAt? location with
      | some .directory => tree
      | _ => tree.putAt location (.file text)
    | .error _ => tree

/-- Takes a file away. What is not a file stays. -/
def remove (tree : FileTree) (path : String) : FileTree :=
  match tree.locate path with
  | .error _ => tree
  | .ok location =>
    match tree.nodeAt? location with
    | some (.file _) => tree.eraseAt location
    | _ => tree

end FileTree

instance : Host (StateM FileTree) where
  kindOf path := do return (← get).kindOf path
  read path := do return (← get).read path
  makeDirectory path := modifyGet (·.makeDirectory path)
  openFile path := modifyGet (·.openFile path)
  append path text := modify (·.append path text)
  workingDirectory := do return "/" ++ String.intercalate "/" (← get).workingDirectory
  timestamp := do return (← get).clock

end Phrasebook
