import Phrasebook.Toml.Scalar
import Phrasebook.Toml.Tree

/-!
# Reading TOML

A document is read line by line into statements, and these are worked into one tree. Arrays may run
over several lines and have comments in them; tables in braces may not. Values and keys nest at most
`maxDepth` deep.
-/

namespace Phrasebook.Toml

open Phrasebook.Text

/-- How deep arrays and tables may be nested, and how many parts a key may have. -/
def maxDepth : Nat := 79

/-- The text after a comment, if it starts with one. -/
def skipComment (text : List Char) : List Char :=
  match text with
  | '#' :: rest => rest.dropWhile isTextChar
  | text => text

/-- The text without the blanks, line breaks and comments in front. Each round skips one comment. -/
def skipFiller : Nat → List Char → List Char
  | 0, text => text
  | rounds + 1, text =>
    match skipBlankLines text with
    | '#' :: rest => skipFiller rounds (rest.dropWhile isTextChar)
    | text => text

/-- The text without the blanks, line breaks and comments in front. -/
def skipAll (text : List Char) : List Char := skipFiller text.length text

/-- Takes the end of a line: blanks, a comment, and a line break unless the text ends. -/
def lineEnd : Scan Unit := fun text ↦
  match skipComment (skipBlanks text) with
  | [] => some ((), [])
  | text => lineBreak text

/-! ## Keys -/

/-- The characters of keys without quotes. -/
def isBareChar (c : Char) : Bool := c.isAlphanum || c = '_' || c = '-'

/-- Takes one part of a key. -/
def simpleKey : Scan String := fun text ↦
  match text with
  | '"' :: _ | '\'' :: _ => lineString text
  | text =>
    match Scan.run isBareChar text with
    | ([], _) => none
    | (key, rest) => some (String.ofList key, rest)

/-- Takes a key with blanks around it: parts with points between them. Each round takes a part. -/
def keyParts : Nat → Scan (List String)
  | 0, _ => none
  | rounds + 1, text => do
    let (part, rest) ← simpleKey (skipBlanks text)
    match skipBlanks rest with
    | '.' :: rest =>
      let (parts, rest) ← keyParts rounds rest
      some (part :: parts, rest)
    | rest => some ([part], rest)

/-- Takes a key: its last part, and the parts before that. -/
def key : Scan (List String × String) := fun text ↦ do
  let (parts, rest) ← keyParts maxDepth text
  let last ← parts.getLast?
  some ((parts.dropLast, last), rest)

/-! ## Values -/

/-- Takes the items of an array and the bracket that closes it. A comma may stand after the last
item. -/
def arrayItems (item : Scan Json) : Nat → Scan (List Json)
  | 0, _ => none
  | rounds + 1, text =>
    match skipAll text with
    | ']' :: rest => some ([], rest)
    | text => do
      let (first, rest) ← item text
      match skipAll rest with
      | ',' :: rest =>
        let (items, rest) ← arrayItems item rounds rest
        some (first :: items, rest)
      | ']' :: rest => some ([first], rest)
      | _ => none

/-- Takes a key and its value. -/
def keyValue (value : Scan Json) : Scan (List String × String × Json) := fun text ↦ do
  let ((parents, key), rest) ← key text
  let ((), rest) ← Scan.expect ['='] rest
  let (v, rest) ← value (skipBlanks rest)
  some ((parents, key, v), skipBlanks rest)

/-- The value of a table in braces. -/
def inlineTable (pairs : List (List String × String × Json)) : Option Json :=
  (pairs.foldlM (fun entries (parents, key, value) ↦ assign parents key value .defined entries)
    []).map Entries.toJson

/-- Takes a value that nests at most `depth` deep. -/
def value : Nat → Scan Json
  | depth, text =>
    match text with
    | '[' :: rest =>
      match depth with
      | 0 => none
      | depth + 1 =>
        (arrayItems (value depth) (rest.length + 1) rest).map fun (items, rest) ↦ (.arr items, rest)
    | '\x7b' :: rest =>
      match depth with
      | 0 => none
      | depth + 1 => do
        let (pairs, rest) ← Scan.enclosed (keyValue (value depth)) (Scan.expect [','])
          (Scan.expect ['\x7d']) (skipBlanks rest)
        let table ← inlineTable pairs
        some (table, rest)
    | text => scalar text

/-! ## Documents -/

/-- Takes a header: of one table, or of one of several. -/
def header : Scan Statement := fun text ↦
  match text with
  | '[' :: '[' :: rest => do
    let ((parents, key), rest) ← key rest
    let ((), rest) ← Scan.expect [']', ']'] rest
    some (.arrayHeader parents key, rest)
  | '[' :: rest => do
    let ((parents, key), rest) ← key rest
    let ((), rest) ← Scan.expect [']'] rest
    some (.header parents key, rest)
  | _ => none

/-- Takes a statement. -/
def statement : Scan Statement := fun text ↦
  match text with
  | '[' :: _ => header text
  | text => do
    let ((parents, key, v), rest) ← keyValue (value maxDepth) text
    some (.assignment parents key v, rest)

/-- The statements of a text. Each round takes at least one character. -/
def statements : Nat → List Char → Option (List Statement)
  | 0, _ => none
  | rounds + 1, text =>
    match skipAll text with
    | [] => some []
    | text => do
      let (first, rest) ← statement text
      let ((), rest) ← lineEnd rest
      let more ← statements rounds rest
      some (first :: more)

/-- The text without a byte order mark in front. -/
def skipMark (text : List Char) : List Char :=
  match text with
  | '\uFEFF' :: rest => rest
  | text => text

/-- Reads a document as an object. -/
def read? (text : String) : Option Json := do
  let text := skipMark text.toList
  let statements ← statements (text.length + 1) text
  let entries ← build statements [] []
  some (Entries.toJson entries)

end Phrasebook.Toml
