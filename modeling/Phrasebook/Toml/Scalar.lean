import Phrasebook.Decimal.Nearest
import Phrasebook.Json
import Phrasebook.Toml.Datetime

/-!
# Strings and numbers in TOML

Strings come in four forms: basic ones with escapes and literal ones without, either of them on one
line or on several. Numbers are whole with a sign and 64 bits, in four bases, or doubles.
Underscores may stand between digits.
-/

namespace Phrasebook.Toml

open Phrasebook.Text

/-- The blanks of TOML: space and tab. -/
def isTomlBlank (c : Char) : Bool := c = ' ' || c = '\t'

/-- The characters that may stand in comments and strings: all but the controls. -/
def isTextChar (c : Char) : Bool := c = '\t' || (' ' ≤ c && c != '\x7f')

/-- The text without the blanks in front. -/
def skipBlanks (text : List Char) : List Char := text.dropWhile isTomlBlank

/-- Takes a line break. -/
def lineBreak : Scan Unit := fun text ↦
  match text with
  | '\n' :: rest => some ((), rest)
  | '\r' :: '\n' :: rest => some ((), rest)
  | _ => none

/-- The text without blanks and line breaks in front. -/
def skipBlankLines : List Char → List Char
  | '\r' :: '\n' :: rest => skipBlankLines rest
  | c :: rest => if isTomlBlank c || c = '\n' then skipBlankLines rest else c :: rest
  | [] => []

/-! ## Strings -/

/-- Takes the character with a code of `count` hexadecimal digits. -/
def codeEscape (count : Nat) : Scan Char := fun text ↦
  let taken := text.take count
  if taken.length = count ∧ taken.all (isDigitOf 16) then
    (charOfCode? (digitsValue 16 0 taken)).map (·, text.drop count)
  else none

/-- Takes what follows the backslash of an escape. -/
def escape : Scan Char := fun text ↦
  match text with
  | 'b' :: rest => some ('\x08', rest)
  | 't' :: rest => some ('\t', rest)
  | 'n' :: rest => some ('\n', rest)
  | 'f' :: rest => some ('\x0c', rest)
  | 'r' :: rest => some ('\r', rest)
  | '"' :: rest => some ('"', rest)
  | '\\' :: rest => some ('\\', rest)
  | 'u' :: rest => codeEscape 4 rest
  | 'U' :: rest => codeEscape 8 rest
  | _ => none

/-- Takes the rest of a string on one line, up to and including the quote that closes it. -/
def lineBody (quote : Char) (escapes : Bool) : Nat → Scan (List Char)
  | 0, _ => none
  | _ + 1, [] => none
  | rounds + 1, c :: rest =>
    if c = quote then some ([], rest)
    else if c = '\\' ∧ escapes then do
      let (c, rest) ← escape rest
      let (body, rest) ← lineBody quote escapes rounds rest
      some (c :: body, rest)
    else if isTextChar c then do
      let (body, rest) ← lineBody quote escapes rounds rest
      some (c :: body, rest)
    else none

/-- Takes what closes a string on several lines: three quotes, with up to two more in front of them
that belong to the string. -/
def closingQuotes (quote : Char) : Scan (List Char) := fun text ↦
  let count := (text.takeWhile (· = quote)).length
  if count < 3 then none
  else
    let taken := min count 5
    some (List.replicate (taken - 3) quote, text.drop taken)

/-- Takes the blanks up to the end of a line, with the line break and all blank lines after it. -/
def foldedBreak : Scan Unit := fun text ↦
  (lineBreak (skipBlanks text)).map fun ((), rest) ↦ ((), skipBlankLines rest)

/-- Takes the rest of a string on several lines. A backslash at the end of a line takes the line
break and the blanks after it away. -/
def linesBody (quote : Char) (escapes : Bool) : Nat → Scan (List Char)
  | 0, _ => none
  | rounds + 1, text =>
    match closingQuotes quote text with
    | some closed => some closed
    | none =>
      match lineBreak text with
      | some ((), rest) =>
        (linesBody quote escapes rounds rest).map fun (body, rest) ↦ ('\n' :: body, rest)
      | none =>
        match text with
        | [] => none
        | c :: rest =>
          if c = '\\' ∧ escapes then
            match foldedBreak rest with
            | some ((), rest) => linesBody quote escapes rounds rest
            | none => do
              let (c, rest) ← escape rest
              let (body, rest) ← linesBody quote escapes rounds rest
              some (c :: body, rest)
          else if isTextChar c then do
            let (body, rest) ← linesBody quote escapes rounds rest
            some (c :: body, rest)
          else none

/-- Takes a string on one line. -/
def lineString : Scan String := fun text ↦
  match text with
  | '"' :: rest =>
    (lineBody '"' true (rest.length + 1) rest).map fun (body, rest) ↦ (String.ofList body, rest)
  | '\'' :: rest =>
    (lineBody '\'' false (rest.length + 1) rest).map fun (body, rest) ↦ (String.ofList body, rest)
  | _ => none

/-- Takes a string after the three quotes that open it. A line break at once is left out. -/
def openedLines (quote : Char) (escapes : Bool) : Scan String := fun text ↦
  let text := match lineBreak text with
    | some ((), rest) => rest
    | none => text
  (linesBody quote escapes (text.length + 1) text).map fun (body, rest) ↦ (String.ofList body, rest)

/-- Takes a string in any form. -/
def string : Scan String := fun text ↦
  match text with
  | '"' :: '"' :: '"' :: rest => openedLines '"' true rest
  | '\'' :: '\'' :: '\'' :: rest => openedLines '\'' false rest
  | text => lineString text

/-! ## Numbers -/

/-- Takes further digits, each of which may have one underscore in front. -/
def moreDigits (p : Char → Bool) : List Char → List Char × List Char
  | '_' :: c :: rest =>
    if p c then
      let (digits, rest) := moreDigits p rest
      (c :: digits, rest)
    else ([], '_' :: c :: rest)
  | c :: rest =>
    if p c then
      let (digits, rest) := moreDigits p rest
      (c :: digits, rest)
    else ([], c :: rest)
  | [] => ([], [])

/-- Takes digits with underscores between them. -/
def digitRun (p : Char → Bool) : Scan (List Char) := fun text ↦
  match text with
  | c :: rest =>
    if p c then
      let (digits, rest) := moreDigits p rest
      some (c :: digits, rest)
    else none
  | [] => none

/-- Takes a sign, if there is one, and tells whether it is a minus. -/
def scanSign (text : List Char) : Bool × List Char :=
  match text with
  | '-' :: rest => (true, rest)
  | '+' :: rest => (false, rest)
  | text => (false, text)

/-- Takes the digits of a whole number: a zero, or digits that do not start with one. -/
def wholeDigits : Scan (List Char) := fun text ↦
  match text with
  | '0' :: rest => some (['0'], rest)
  | text => digitRun Char.isDigit text

/-- A whole number, if it fits into 64 bits with a sign. -/
def wholeNumber? (n : Int) : Option Json :=
  if -(Json.signedBound : Int) ≤ n ∧ n < Json.signedBound then some (.int n) else none

/-- A number in a base other than ten, after the mark of the base. -/
def basedNumber (base : Nat) : Scan Json := fun text ↦ do
  let (digits, rest) ← digitRun (isDigitOf base) text
  let value ← wholeNumber? (digitsValue base 0 digits)
  some (value, rest)

/-- Takes an exponent with its mark, if there is one. -/
def scanExponent : Scan (Option Int) := fun text ↦
  match text with
  | 'e' :: rest | 'E' :: rest => do
    let (negative, rest) := scanSign rest
    let (digits, rest) ← digitRun Char.isDigit rest
    let n : Int := digitsValue 10 0 digits
    some (some (if negative then -n else n), rest)
  | text => some (none, text)

/-- Takes the digits after a point, if there is one. -/
def scanFraction : Scan (Option (List Char)) := fun text ↦
  match text with
  | '.' :: rest => (digitRun Char.isDigit rest).map fun (digits, rest) ↦ (some digits, rest)
  | text => some (none, text)

/-- A double, unless it is the positive infinity. -/
def finiteNumber? (x : Float) : Option Json := if x == 1.0 / 0.0 then none else some (.float x)

/-- Takes a number in base ten, or one of the words for doubles that are not numbers. -/
def decimalNumber : Scan Json := fun text ↦
  let (negative, text) := scanSign text
  match text with
  | 'i' :: 'n' :: 'f' :: rest => some (.float (if negative then -1.0 / 0.0 else 1.0 / 0.0), rest)
  | 'n' :: 'a' :: 'n' :: rest => some (.float (0.0 / 0.0), rest)
  | text => do
    let (whole, text) ← wholeDigits text
    let (fraction, text) ← scanFraction text
    let (exponent, text) ← scanExponent text
    let value ←
      if fraction.isNone && exponent.isNone then
        let n : Int := digitsValue 10 0 whole
        wholeNumber? (if negative then -n else n)
      else
        finiteNumber? (Decimal.nearestSigned negative whole (fraction.getD []) (exponent.getD 0))
    some (value, text)

/-- Takes a number. -/
def number : Scan Json := fun text ↦
  match text with
  | '0' :: 'x' :: rest => basedNumber 16 rest
  | '0' :: 'o' :: rest => basedNumber 8 rest
  | '0' :: 'b' :: rest => basedNumber 2 rest
  | text => decimalNumber text

/-- The name of the one field by which a date or time is told from other values. -/
def datetimeField : String := "$__toml_private_datetime"

/-- Takes a value that is no array and no table. -/
def scalar : Scan Json := fun text ↦
  match text with
  | '"' :: _ | '\'' :: _ => (string text).map fun (s, rest) ↦ (.str s, rest)
  | 't' :: 'r' :: 'u' :: 'e' :: rest => some (.bool true, rest)
  | 'f' :: 'a' :: 'l' :: 's' :: 'e' :: rest => some (.bool false, rest)
  | text =>
    match Datetime.scan text with
    | some (d, rest) => some (.obj [(datetimeField, .str d.text)], rest)
    | none => number text

end Phrasebook.Toml
