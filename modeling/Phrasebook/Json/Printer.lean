import Phrasebook.Decimal
import Phrasebook.Json

/-!
# Writing JSON

Two layouts of a value: `compact` on one line without blanks, and `pretty` with one item to a line
and two blanks to a level. Both write the fields of an object in the order they have, and both
escape in a string only what has to be: the quote, the backslash and the controls below the space.
-/

namespace Phrasebook.Json

/-- The sixteen digits, in lower case. -/
def hexDigit (n : Nat) : Char := (Nat.toDigits 16 n).headD '0'

/-- A character as it stands inside a string. -/
def escapeChar (c : Char) : List Char :=
  if c = '"' then ['\\', '"']
  else if c = '\\' then ['\\', '\\']
  else if c = '\n' then ['\\', 'n']
  else if c = '\r' then ['\\', 'r']
  else if c = '\t' then ['\\', 't']
  else if c = '\x08' then ['\\', 'b']
  else if c = '\x0c' then ['\\', 'f']
  else if c.toNat < 0x20 then
    ['\\', 'u', '0', '0', hexDigit (c.toNat / 16), hexDigit (c.toNat % 16)]
  else [c]

/-- A text between quotes. -/
def quote (s : String) : List Char := '"' :: (s.toList.flatMap escapeChar ++ ['"'])

/-- The text of a whole number. -/
def intText (n : Int) : List Char :=
  match n with
  | .ofNat k => Nat.toDigits 10 k
  | .negSucc k => '-' :: Nat.toDigits 10 (k + 1)

/-- The shortest text of a double that reads back; null when it is not finite. -/
def floatText (x : Float) : List Char :=
  match Binary.ofFloat? x with
  | none => "null".toList
  | some b => Decimal.shortestText b

/-- The text of a value without items or fields. -/
def scalarText : Json → List Char
  | .null => "null".toList
  | .bool true => "true".toList
  | .bool false => "false".toList
  | .int n => intText n
  | .float x => floatText x
  | .char c => quote (String.singleton c)
  | .str s => quote s
  | .arr _ => ['[', ']']
  | .obj _ => ['{', '}']

mutual

/-- The characters of a value on one line. -/
def compactChars : Json → List Char
  | .arr [] => ['[', ']']
  | .arr (item :: rest) => '[' :: (compactChars item ++ compactItems rest)
  | .obj [] => ['{', '}']
  | .obj ((name, value) :: rest) =>
    '{' :: (quote name ++ ':' :: (compactChars value ++ compactFields rest))
  | value => scalarText value

/-- The items after the first, up to the closing bracket. -/
def compactItems : List Json → List Char
  | [] => [']']
  | item :: rest => ',' :: (compactChars item ++ compactItems rest)

/-- The fields after the first, up to the closing brace. -/
def compactFields : List (String × Json) → List Char
  | [] => ['}']
  | (name, value) :: rest =>
    ',' :: (quote name ++ ':' :: (compactChars value ++ compactFields rest))

end

/-- A value on one line. -/
def compact (value : Json) : String := String.ofList (compactChars value)

/-- A new line at a level. -/
def newLine (level : Nat) : List Char := '\n' :: List.replicate (2 * level) ' '

mutual

/-- The characters of a value whose opening bracket stands on a line of the given level. -/
def prettyChars (level : Nat) : Json → List Char
  | .arr [] => ['[', ']']
  | .arr (item :: rest) =>
    '[' :: (newLine (level + 1) ++ prettyChars (level + 1) item ++ prettyItems level rest)
  | .obj [] => ['{', '}']
  | .obj ((name, value) :: rest) =>
    '{' :: (newLine (level + 1) ++ quote name ++ ':' :: ' ' :: prettyChars (level + 1) value ++
      prettyFields level rest)
  | value => scalarText value

/-- The items after the first, up to the closing bracket. -/
def prettyItems (level : Nat) : List Json → List Char
  | [] => newLine level ++ [']']
  | item :: rest =>
    ',' :: (newLine (level + 1) ++ prettyChars (level + 1) item ++ prettyItems level rest)

/-- The fields after the first, up to the closing brace. -/
def prettyFields (level : Nat) : List (String × Json) → List Char
  | [] => newLine level ++ ['}']
  | (name, value) :: rest =>
    ',' :: (newLine (level + 1) ++ quote name ++ ':' :: ' ' :: prettyChars (level + 1) value ++
      prettyFields level rest)

end

/-- A value with one item or field to a line. -/
def pretty (value : Json) : String := String.ofList (prettyChars 0 value)

end Phrasebook.Json
