import Phrasebook.Names

/-!
# JSON values

The tree that alias files, settings and plans are made of. An object keeps its fields as they were
written, repeated names included, because whether a repetition is a fault depends on who reads the
object. Where only the value counts, `normalize` sorts the fields and lets the last of each name
stand.
-/

namespace Phrasebook

/-- A JSON value. Whole numbers are kept apart from the rest, which are doubles, and so is a single
character from a text: JSON has no such value, but the sources of settings do. -/
inductive Json where
  | null
  | bool (b : Bool)
  | int (n : Int)
  | float (x : Float)
  | char (c : Char)
  | str (s : String)
  | arr (items : List Json)
  | obj (fields : List (String × Json))
deriving Inhabited

namespace Json

/-- A whole number below this one fits into 64 bits with a sign. -/
def signedBound : Nat := 0x8000000000000000

mutual

/-- The value with the fields of every object in ascending order, the last of each name kept. A
number that is infinite or undefined has no place in JSON and becomes null, and a single character
becomes a text. -/
def normalize : Json → Json
  | .float x => if x.isNaN || x.isInf then .null else .float x
  | .char c => .str (String.singleton c)
  | .arr items => .arr (normalizeItems items)
  | .obj fields => .obj (NameMap.ofList (normalizeFields fields)).entries
  | value => value

/-- `normalize` on every item. -/
def normalizeItems : List Json → List Json
  | [] => []
  | item :: rest => normalize item :: normalizeItems rest

/-- `normalize` on the value of every field. -/
def normalizeFields : List (String × Json) → List (String × Json)
  | [] => []
  | (name, value) :: rest => (name, normalize value) :: normalizeFields rest

end

mutual

/-- The value with every text in it changed by `f`. The names of fields are no texts. -/
def mapTexts (f : String → String) : Json → Json
  | .str s => .str (f s)
  | .arr items => .arr (mapTextsItems f items)
  | .obj fields => .obj (mapTextsFields f fields)
  | value => value

/-- `mapTexts` on every item. -/
def mapTextsItems (f : String → String) : List Json → List Json
  | [] => []
  | item :: rest => mapTexts f item :: mapTextsItems f rest

/-- `mapTexts` on the value of every field. -/
def mapTextsFields (f : String → String) : List (String × Json) → List (String × Json)
  | [] => []
  | (name, value) :: rest => (name, mapTexts f value) :: mapTextsFields f rest

end

mutual

/-- The texts in a value at any depth, from left to right. The names of fields are no texts. -/
def textsWithin : Json → List String
  | .str s => [s]
  | .arr items => textsWithinItems items
  | .obj fields => textsWithinFields fields
  | _ => []

/-- The texts in some items. -/
def textsWithinItems : List Json → List String
  | [] => []
  | item :: rest => textsWithin item ++ textsWithinItems rest

/-- The texts in the values of some fields. -/
def textsWithinFields : List (String × Json) → List String
  | [] => []
  | (_, value) :: rest => textsWithin value ++ textsWithinFields rest

end

/-- The text of a JSON string. -/
def str? : Json → Option String
  | .str s => some s
  | _ => none

/-- The value of the last field with the given name, when the value is an object. -/
def field? (name : String) : Json → Option Json
  | .obj fields => (fields.reverse.find? fun field ↦ field.1 == name).map (·.2)
  | _ => none

/-- The list of the texts. -/
def texts (items : List String) : Json := .arr (items.map .str)

/-- Null for an absent value. -/
def ofOption {α : Type} (encode : α → Json) : Option α → Json
  | none => .null
  | some a => encode a

end Json

end Phrasebook
