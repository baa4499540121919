import Phrasebook.Json

/-!
# Tables in TOML

A document is a list of statements, each of which gives a key a value or opens a table. They are
worked into one tree. A table may be given in pieces only in certain ways: which ones depends on how
it came about, so the tree keeps that.
-/

namespace Phrasebook.Toml

/-- How a table came about. -/
inductive Origin where
  /-- By a header of its own, or as a value. -/
  | defined
  /-- As a part of the key in the header of another table. -/
  | implied
  /-- As a part of the key of a value. -/
  | dotted
deriving DecidableEq

/-- What stands under a key. -/
inductive Item where
  | value (v : Json)
  | table (origin : Origin) (entries : List (String × Item))
  /-- Tables under one header: the earlier ones, and the last, to which statements still add. -/
  | tables (earlier : List (List (String × Item))) (last : List (String × Item))

/-- The keys of a table and what stands under them. -/
abbrev Entries := List (String × Item)

/-- A line of a document. -/
inductive Statement where
  /-- Opens a table. -/
  | header (parents : List String) (key : String)
  /-- Opens one more table of several under one key. -/
  | arrayHeader (parents : List String) (key : String)
  /-- Gives a key a value. -/
  | assignment (parents : List String) (key : String) (value : Json)

/-- Changes what stands under `key`, or puts something there. -/
def update (key : String) (f : Option Item → Option Item) : Entries → Option Entries
  | [] => (f none).map fun item ↦ [(key, item)]
  | (name, item) :: rest =>
    if name = key then (f (some item)).map fun item ↦ (name, item) :: rest
    else (update key f rest).map ((name, item) :: ·)

/-- Changes the entries of the table under a path of keys, making tables that are missing. Of tables
under one header the last is meant. The path of a value, unlike that of a header, does not lead
through a table that was defined elsewhere. -/
def within (dotted : Bool) (change : Origin → Entries → Option Entries) :
    List String → Origin → Entries → Option Entries
  | [], origin, entries => change origin entries
  | key :: path, _, entries =>
    entries |> update key fun
      | none =>
        let origin : Origin := if dotted then .dotted else .implied
        (within dotted change path origin []).map (.table origin)
      | some (.value _) => none
      | some (.table origin entries) =>
        if dotted && origin = .defined then none
        else (within dotted change path origin entries).map (.table origin)
      | some (.tables earlier last) =>
        (within dotted change path .defined last).map (.tables earlier)

/-- Opens the table under `key`. It must be new, or known only as a part of other headers. -/
def openTable (key : String) (entries : Entries) : Option Entries :=
  entries |> update key fun
    | none => some (.table .defined [])
    | some (.table .implied entries) => some (.table .defined entries)
    | _ => none

/-- Opens one more table under `key`. -/
def openArrayTable (key : String) (entries : Entries) : Option Entries :=
  entries |> update key fun
    | none => some (.tables [] [])
    | some (.tables earlier last) => some (.tables (earlier ++ [last]) [])
    | _ => none

/-- Gives `key` a value, in the table that `parents` lead to from here. That table must have come
about by such keys, or be the one that is open. -/
def assign (parents : List String) (key : String) (value : Json) (origin : Origin)
    (entries : Entries) : Option Entries :=
  within true (fun origin entries ↦
    if (origin = .dotted) = !parents.isEmpty then
      entries |> update key fun
        | none => some (.value value)
        | some _ => none
    else none) parents origin entries

/-- Works statements into a tree, `opened` being the path to the table that is open. -/
def build : List Statement → List String → Entries → Option Entries
  | [], _, entries => some entries
  | .header parents key :: rest, _, entries =>
    (within false (fun _ ↦ openTable key) parents .defined entries).bind
      (build rest (parents ++ [key]))
  | .arrayHeader parents key :: rest, _, entries =>
    (within false (fun _ ↦ openArrayTable key) parents .defined entries).bind
      (build rest (parents ++ [key]))
  | .assignment parents key value :: rest, opened, entries =>
    (within false (assign parents key value) opened .defined entries).bind (build rest opened)

mutual

/-- The value that an item stands for. -/
def Item.toJson : Item → Json
  | .value v => v
  | .table _ entries => .obj (Item.fieldsOf entries)
  | .tables earlier last => .arr (Item.objectsOf earlier ++ [.obj (Item.fieldsOf last)])

/-- The fields that entries stand for. -/
def Item.fieldsOf : List (String × Item) → List (String × Json)
  | [] => []
  | (key, item) :: rest => (key, Item.toJson item) :: Item.fieldsOf rest

/-- The objects that tables stand for. -/
def Item.objectsOf : List (List (String × Item)) → List Json
  | [] => []
  | entries :: rest => .obj (Item.fieldsOf entries) :: Item.objectsOf rest

end

/-- The object that a table with the given entries stands for. -/
def Entries.toJson (entries : Entries) : Json := .obj (Item.fieldsOf entries)

end Phrasebook.Toml
