import Phrasebook.Json

/-!
# Reading values out of JSON

A value of the library is read out of a JSON value part by part. Reading a part gives the part or a
fault, and a fault knows the path to the place where it was found. When several parts have faults
the one whose path comes first counts, so the outcome does not depend on the order of reading.

A record is an object with one field for each part, or an array with the parts in order. Which
liberties are allowed beyond that differs between the formats that the JSON value may have come from
and is told by a dialect.
-/

namespace Phrasebook

/-- The kinds of faults. -/
inductive FaultKind where
  | invalidType
  | invalidValue
  | invalidLength
  | unknownVariant
  | unknownField
  | missingField
  | duplicateField
  /-- A fault that the value as a whole has. -/
  | message
deriving DecidableEq, Repr

/-- A fault and the path to its place. -/
structure Fault where
  kind : FaultKind
  path : List String := []
deriving DecidableEq, Repr

/-- What reading a value comes to. -/
inductive Decoded (α : Type) where
  | ok (value : α)
  | fault (fault : Fault)
deriving DecidableEq

namespace Decoded

variable {α β : Type}

/-- Changes the value that was read. -/
def map (f : α → β) : Decoded α → Decoded β
  | ok a => ok (f a)
  | fault e => fault e

/-- Reads two parts. Of two faults the one whose path comes first counts. -/
def ap (f : Decoded (α → β)) (a : Unit → Decoded α) : Decoded β :=
  match f, a () with
  | ok f, ok a => ok (f a)
  | ok _, fault e => fault e
  | fault e, ok _ => fault e
  | fault e, fault e' => fault (if e'.path < e.path then e' else e)

instance : Functor Decoded := ⟨map, fun a ↦ map fun _ ↦ a⟩

instance : Applicative Decoded := { pure := ok, seq := ap, map := map }

/-- Goes on with the value that was read. -/
def andThen (a : Decoded α) (f : α → Decoded β) : Decoded β :=
  match a with
  | ok a => f a
  | fault e => fault e

/-- Notes that the value was read at a place inside another. -/
def under (place : String) : Decoded α → Decoded α
  | ok a => ok a
  | fault e => fault { e with path := place :: e.path }

/-- The value that was read, if there was no fault. -/
def toOption : Decoded α → Option α
  | ok a => some a
  | fault _ => none

/-- A fault of the given kind. -/
def fail (kind : FaultKind) : Decoded α := fault { kind := kind }

end Decoded

/-- The liberties that a format allows. -/
structure Dialect where
  /-- Whether a record in the form of an array may have more items than parts. -/
  surplusItems : Bool
  /-- Whether a word may be given as an object with the word as its one field and this value. -/
  acceptsPayload : Json → Bool

namespace Dialect

/-- JSON itself: a word may stand as a field whose value is null. -/
def json : Dialect where
  surplusItems := false
  acceptsPayload
    | .null => true
    | _ => false

/-- JSON inside a value whose form had to be found out first: a word may stand as a field whose
value is null or the empty object. -/
def nested : Dialect where
  surplusItems := false
  acceptsPayload
    | .null => true
    | .obj [] => true
    | _ => false

/-- TOML: a word may stand as a key with an empty table or an empty array. -/
def toml : Dialect where
  surplusItems := true
  acceptsPayload
    | .obj [] => true
    | .arr [] => true
    | _ => false

/-- Settings that were merged from several sources: a word is a text and nothing else. -/
def settings : Dialect where
  surplusItems := true
  acceptsPayload _ := false

end Dialect

namespace Json

variable {α : Type}

/-! ## Single values -/

/-- Reads a text. A single character is one. -/
def decodeText : Json → Decoded String
  | .str s => .ok s
  | .char c => .ok (String.singleton c)
  | _ => .fail .invalidType

/-- Reads a truth value. -/
def decodeBool : Json → Decoded Bool
  | .bool b => .ok b
  | _ => .fail .invalidType

/-- Reads a whole number from `low` up to but not including `high`. -/
def decodeInt (low high : Int) : Json → Decoded Int
  | .int n => if low ≤ n ∧ n < high then .ok n else .fail .invalidValue
  | _ => .fail .invalidType

/-- Reads a natural number below `high`. -/
def decodeNat (high : Nat) (value : Json) : Decoded Nat := (decodeInt 0 high value).map Int.toNat

/-- Reads a number of 64 bits. -/
def decodeUInt64 (value : Json) : Decoded UInt64 := (decodeNat UInt64.size value).map Nat.toUInt64

/-- Reads a signed number of 32 bits. -/
def decodeInt32 (value : Json) : Decoded Int32 :=
  (decodeInt Int32.minValue.toInt (Int32.maxValue.toInt + 1) value).map Int32.ofInt

/-- Reads a number as a double. -/
def decodeFloat : Json → Decoded Float
  | .float x => .ok x
  | .int n => .ok (Float.ofInt n)
  | _ => .fail .invalidType

/-- Reads a value that may be null. -/
def decodeOption (decode : Json → Decoded α) : Json → Decoded (Option α)
  | .null => .ok none
  | value => (decode value).map some

/-- Looks up one of some words. -/
def decodeWordText (words : List (String × α)) (word : String) : Decoded α :=
  match words.lookup word with
  | some a => .ok a
  | none => .fail .unknownVariant

/-- Reads one of some words, which has to be a text. -/
def decodeTag (words : List (String × α)) (value : Json) : Decoded α :=
  (decodeText value).andThen (decodeWordText words)

/-- Reads one of some words. A single character is no word. An object is looked at for the first of
its fields in ascending order: the name is the word, and there must not be another field. -/
def decodeWord (dialect : Dialect) (words : List (String × α)) : Json → Decoded α
  | .str s => decodeWordText words s
  | .obj fields =>
    match (NameMap.ofList fields).entries with
    | (word, payload) :: _ =>
      ((decodeWordText words word).andThen fun a ↦
        if fields.length = 1 && dialect.acceptsPayload payload then .ok a
        else .fail .invalidType).under word
    | [] => .fail .invalidType
  | _ => .fail .invalidType

/-! ## Lists and maps -/

/-- Reads each of some items, the first of which stands at `index`. -/
def decodeItems (decode : Json → Decoded α) (index : Nat) : List Json → Decoded (List α)
  | [] => .ok []
  | item :: rest =>
    List.cons <$> (decode item).under (toString index) <*> decodeItems decode (index + 1) rest

/-- Reads an array. -/
def decodeList (decode : Json → Decoded α) : Json → Decoded (List α)
  | .arr items => decodeItems decode 0 items
  | _ => .fail .invalidType

/-- Reads an array of texts as a set. -/
def decodeNames (value : Json) : Decoded NameSet := (decodeList decodeText value).map NameSet.ofList

/-- Reads the value of each of some fields. -/
def decodeFields (decode : Json → Decoded α) : List (String × Json) → Decoded (List (String × α))
  | [] => .ok []
  | (name, value) :: rest =>
    List.cons <$> ((decode value).under name).map (name, ·) <*> decodeFields decode rest

/-- Reads an object as a map; of two fields with one name the later counts. -/
def decodeMap (decode : Json → Decoded α) : Json → Decoded (NameMap α)
  | .obj fields => (decodeFields decode fields).map NameMap.ofList
  | _ => .fail .invalidType

/-- Reads an object whose fields may hold anything. -/
def decodeParams : Json → Decoded (NameMap Json) := decodeMap fun value ↦ .ok value.normalize

end Json

/-! ## Records -/

/-- The parts of a record: under their names, or in order. -/
inductive Record where
  | named (fields : List (String × Json))
  | ordered (items : List Json)

namespace Record

variable {α : Type}

/-- Takes a JSON value for a record with `count` parts. -/
def ofJson (dialect : Dialect) (count : Nat) : Json → Decoded Record
  | .obj fields => .ok (.named fields)
  | .arr items =>
    if count < items.length && !dialect.surplusItems then .fail .invalidLength
    else .ok (.ordered items)
  | _ => .fail .invalidType

/-- The part with the given name and index, if it is there. A name must not be repeated. -/
def part? (record : Record) (index : Nat) (name : String) : Decoded (Option Json) :=
  match record with
  | .ordered items => .ok items[index]?
  | .named fields =>
    match fields.filter fun field ↦ field.1 == name with
    | [] => .ok none
    | [field] => .ok (some field.2)
    | _ => .fail .duplicateField

/-- How a path calls the part with the given name and index. -/
def placeOf (record : Record) (index : Nat) (name : String) : String :=
  match record with
  | .ordered _ => toString index
  | .named _ => name

/-- Reads a part that has to be there. -/
def required (record : Record) (index : Nat) (name : String) (decode : Json → Decoded α) :
    Decoded α :=
  (record.part? index name).andThen fun
    | some value => (decode value).under (record.placeOf index name)
    | none =>
      match record with
      | .ordered _ => .fail .invalidLength
      | .named _ => .fail .missingField

/-- Reads a part in whose absence `absent` is taken. -/
def withDefault (record : Record) (index : Nat) (name : String) (absent : α)
    (decode : Json → Decoded α) : Decoded α :=
  (record.part? index name).andThen fun
    | some value => (decode value).under (record.placeOf index name)
    | none => .ok absent

/-- Reads a part that may be null or absent. -/
def optional (record : Record) (index : Nat) (name : String) (decode : Json → Decoded α) :
    Decoded (Option α) :=
  record.withDefault index name none (Json.decodeOption decode)

end Record

namespace Json

variable {α : Type}

/-- Reads a record with `count` parts. -/
def decodeRecord (dialect : Dialect) (count : Nat) (decode : Record → Decoded α) (value : Json) :
    Decoded α :=
  (Record.ofJson dialect count value).andThen decode

/-- The field for a part, which is left out when there is none. -/
def optionalField (name : String) : Option String → List (String × Json)
  | none => []
  | some s => [(name, .str s)]

end Json

end Phrasebook
