import Phrasebook.Json
import Phrasebook.Text.Blank
import Phrasebook.Toml.Scalar

/-!
# Settings in environment variables

A variable whose name starts with `ALIAS_ROUTER_` sets one value. What follows in the name is the
path to it, with two underscores between the parts; a path with an empty part leads nowhere. The
value is taken for a truth value, a number, a list or a table when it looks like one, for a single
character when it stands between single quotes, and for a text otherwise. A text with escapes is
measured in characters and cut in bytes; one that cannot be cut so is torn, and has no value.
-/

namespace Phrasebook.Settings

open Phrasebook.Text

/-- The variables of a process and their values, in the order in which they are set. -/
abbrev Environment := List (String × String)

/-- How the names of variables that hold settings start. -/
def variableStart : String := "ALIAS_ROUTER_"

namespace Variable

/-! ## Values -/

/-- The blanks around values. -/
def isValueBlank (c : Char) : Bool :=
  c = ' ' || c = '\t' || c = '\n' || c = '\r' || c = '\x0c'

/-- The text without blanks in front. -/
def skipBlanks (text : List Char) : List Char := text.dropWhile isValueBlank

/-- Whether a character may stand in a value without quotes. -/
def isPlainChar (c : Char) : Bool :=
  !(c = ',' || c = '\x7b' || c = '\x7d' || c = '[' || c = ']')

/-- Whether a character may stand in a key without quotes. -/
def isKeyChar (c : Char) : Bool := c.isAlphanum || c = '_' || c = '-'

/-- The number that a text with a point writes. -/
def real? (text : List Char) : Option Json :=
  let (negative, unsigned) := Toml.scanSign text
  let (whole, rest) := Scan.run Char.isDigit unsigned
  match rest with
  | '.' :: rest =>
    let (fraction, rest) := Scan.run Char.isDigit rest
    if whole.isEmpty && fraction.isEmpty then none
    else
      match rest with
      | [] => some (.float (Decimal.nearestSigned negative whole fraction 0))
      | mark :: rest =>
        let (down, digits) := Toml.scanSign rest
        if (mark = 'e' || mark = 'E') && !digits.isEmpty && digits.all Char.isDigit then
          let e : Int := digitsValue 10 0 digits
          some (.float (Decimal.nearestSigned negative whole fraction (if down then -e else e)))
        else none
  | _ => none

/-- The whole number that a text writes, if it fits into 64 bits with or without a sign. -/
def whole? (text : List Char) : Option Json :=
  let (negative, digits) := Toml.scanSign text
  if digits.isEmpty || !digits.all Char.isDigit then none
  else
    let n := digitsValue 10 0 digits
    if negative then if n ≤ Json.signedBound then some (.int (-n)) else none
    else if n < UInt64.size then some (.int n) else none

/-- The value that a text without quotes stands for. -/
def plainValue (text : List Char) : Json :=
  let text := trimChars text
  match real? text with
  | some value => value
  | none => (whole? text).getD (.str (String.ofList text))

/-- Why something cannot be read off the front of a text. -/
inductive Obstacle where
  /-- Something else stands there. -/
  | unfit
  /-- It does stand there, but would have to end inside a character. -/
  | torn
deriving DecidableEq, Repr

/-- Takes an `α` off the front of a text, or tells why it cannot. -/
abbrev Reading (α : Type) := List Char → Except Obstacle (α × List Char)

/-- A scan as a reading: where it fails, something else stands there. -/
def Reading.ofScan {α : Type} (scan : Scan α) : Reading α := fun text ↦
  (scan text).elim (.error .unfit) .ok

/-- The start of a text that takes up so many bytes, unless a character stands across its end. -/
def takeBytes? : Nat → List Char → Option (List Char)
  | 0, _ => some []
  | _, [] => none
  | n, c :: text => if c.utf8Size ≤ n then (takeBytes? (n - c.utf8Size) text).map (c :: ·) else none

/-- Whether a quote follows that closes a text: one that is not part of an escape. -/
def isClosed : List Char → Bool
  | '\\' :: _ :: rest => isClosed rest
  | c :: rest => c = '"' || isClosed rest
  | [] => false

/-- Takes a text between quotes. A text without escapes is taken as it stands. Of what stands before
the first escape as many bytes are kept as it has characters: all of it in ASCII, and less where a
character takes up more than one byte. -/
def quotedText : Reading String
  | '"' :: text =>
    let (lead, rest) := Scan.run (fun c ↦ c != '"' && c != '\\') text
    if !(isClosed rest && lead.all Toml.isTextChar) then .error .unfit
    else
      let escaped := rest.head? == some '\\'
      match if escaped then takeBytes? lead.length lead else some lead with
      | none => .error .torn
      | some kept => do
        let (body, rest) ← Reading.ofScan (Toml.lineBody '"' true (rest.length + 1)) rest
        return (String.ofList (kept ++ body), rest)
  | _ => .error .unfit

/-- Takes a comma. -/
def comma : Scan Unit := Scan.expect [',']

/-- Takes items up to a closing mark. A comma may stand after the last one. -/
def items {α : Type} (item : Reading α) (close : Char) : Nat → Reading (List α)
  | 0, _ => .error .unfit
  | rounds + 1, text =>
    match Scan.expect [close] text with
    | some ((), rest) => .ok ([], rest)
    | none => do
      let (first, rest) ← item text
      match comma rest with
      | some ((), rest) =>
        let (more, rest) ← items item close rounds rest
        return (first :: more, rest)
      | none =>
        let ((), rest) ← Reading.ofScan (Scan.expect [close]) rest
        return ([first], rest)

/-- Takes a key without quotes. -/
def plainKey : Scan String := fun text ↦
  match Scan.run isKeyChar text with
  | ([], _) => none
  | (key, rest) => some (String.ofList key, rest)

/-- Takes a key and its value. -/
def keyValue (value : Reading Json) : Reading (String × Json) := fun text ↦ do
  let text := skipBlanks text
  let (key, rest) ←
    if text.head? == some '"' then quotedText text else Reading.ofScan plainKey text
  let ((), rest) ← Reading.ofScan (Scan.expect ['=']) (skipBlanks rest)
  let (v, rest) ← value (skipBlanks rest)
  return ((key, v), skipBlanks rest)

/-- Takes a value that nests at most `depth` deep, with the blanks around it. -/
def value : Nat → Reading Json
  | depth, text =>
    let found : Except Obstacle (Json × List Char) := match skipBlanks text with
      | 't' :: 'r' :: 'u' :: 'e' :: rest => .ok (.bool true, rest)
      | 'f' :: 'a' :: 'l' :: 's' :: 'e' :: rest => .ok (.bool false, rest)
      | '\x7b' :: rest =>
        match depth with
        | 0 => .error .unfit
        | depth + 1 => (items (keyValue (value depth)) '\x7d' (rest.length + 1) rest).map
          fun (fields, rest) ↦ (.obj (NameMap.ofList fields).entries, rest)
      | '[' :: rest =>
        match depth with
        | 0 => .error .unfit
        | depth + 1 => (items (value depth) ']' (rest.length + 1) rest).map
          fun (values, rest) ↦ (.arr values, rest)
      | '"' :: rest => (quotedText ('"' :: rest)).map fun (s, rest) ↦ (.str s, rest)
      | '\'' :: c :: '\'' :: rest => .ok (.char c, rest)
      | '\'' :: _ => .error .unfit
      | text =>
        let (plain, rest) := Scan.run isPlainChar text
        .ok (plainValue plain, rest)
    found.map fun (v, rest) ↦ (v, skipBlanks rest)

/-- The value of a variable, if no text in it is torn. A text that is not a value as a whole is a
text. -/
def valueOf? (text : String) : Option Json :=
  match value text.toList.length text.toList with
  | .ok (v, []) => some v
  | .error .torn => none
  | _ => some (.str text)

/-! ## Names -/

/-- The text with a point for each two underscores in a row. -/
def dotted : List Char → List Char
  | '_' :: '_' :: rest => '.' :: dotted rest
  | c :: rest => c :: dotted rest
  | [] => []

/-- The parts of a text between points, empty ones included. -/
def parts : List Char → List Char → List (List Char)
  | run, [] => [run.reverse]
  | run, c :: rest => if c = '.' then run.reverse :: parts [] rest else parts (c :: run) rest

/-- The value under a path of keys. -/
def nest : List (List Char) → Json → Json
  | [], value => value
  | key :: path, value => .obj [(String.ofList key, nest path value)]

/-- What follows the start of the names of settings, whatever the case of the letters. Blanks at the
ends of the name and of what follows do not count. -/
def afterStart? (name : String) : Option (List Char) :=
  let start := variableStart.toList
  let name := trimChars name.toList
  if (name.take start.length).map Char.toLower = start.map Char.toLower then
    some (trimChars (name.drop start.length))
  else none

/-- The path to the value that a variable sets, if it sets one: no key may be empty. -/
def path? (name : String) : Option (List (List Char)) :=
  ((afterStart? name).map fun rest ↦ parts [] ((dotted rest).map Char.toLower)).filter
    fun path ↦ path.all fun key ↦ !key.isEmpty

/-- The settings that a variable with the given path and value holds, if no text in it is torn. -/
def settings? (path : List (List Char)) (text : String) : Option Json :=
  (valueOf? text).map (nest path)

end Variable

end Phrasebook.Settings
