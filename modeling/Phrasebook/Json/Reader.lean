import Phrasebook.Json
import Phrasebook.Text.Scan

/-!
# Reading JSON

A reader for the whole of JSON with two limits: values nest at most `maxDepth` deep, and a number
has to lie in the range of the doubles. Whole numbers of 64 bits are kept exactly. Any other number
is the double found by scaling its leading digits, as many as fit into 64 bits, by one power of
ten.
-/

namespace Phrasebook.Json

open Phrasebook.Text

/-- How deep lists and objects may be nested. -/
def maxDepth : Nat := 127

/-- The blanks of JSON: space, tab and the two line breaks. -/
def isJsonBlank (c : Char) : Bool := c = ' ' || c = '\t' || c = '\n' || c = '\r'

/-- The text without the blanks in front. -/
def skipBlanks (text : List Char) : List Char := text.dropWhile isJsonBlank

/-! ## Numbers -/

/-- The digits of a number that are kept, and the power of ten they are to be scaled by. -/
structure Significand where
  digits : Nat
  scale : Int

/-- Takes up further digits: each adds to the kept ones while these fit into 64 bits. Once one does
not fit it is dropped, with all that follow; `step` is what a kept digit and `missed` what a dropped
one adds to the scale. -/
def Significand.extend (step missed : Int) : Significand → List Char → Significand
  | s, [] => s
  | s, c :: rest =>
    let next := s.digits * 10 + (digitValue? 10 c).getD 0
    if next < UInt64.size then Significand.extend step missed ⟨next, s.scale + step⟩ rest
    else ⟨s.digits, s.scale + missed * (rest.length + 1)⟩

/-- The double nearest to a power of ten up to `10 ^ 308`. -/
def powerOfTen (k : Nat) : Float := Float.ofScientific 1 false k

/-- Divides by `10 ^ 308` until what is left of the scale is within reach. -/
def scaleDown : Nat → Float → Nat → Float
  | 0, _, _ => 0
  | rounds + 1, x, k =>
    if k ≤ 308 then x / powerOfTen k
    else if x == 0 then x
    else scaleDown rounds (x / powerOfTen 308) (k - 308)

/-- The double for a significand, unless it is too large. -/
def Significand.toFloat? (s : Significand) : Option Float :=
  let x := Float.ofNat s.digits
  if s.scale < 0 then
    some (scaleDown (s.scale.natAbs / 308 + 1) x s.scale.natAbs)
  else if s.scale ≤ 308 then
    let y := x * powerOfTen s.scale.toNat
    if y.isInf then none else some y
  else if x == 0 then some x
  else none

/-- The digits after an exponent mark, with the sign in front of them. -/
def exponentPart : Scan (Bool × List Char) := fun text ↦
  let (negative, text) := match text with
    | '-' :: rest => (true, rest)
    | '+' :: rest => (false, rest)
    | rest => (false, rest)
  match Scan.run Char.isDigit text with
  | ([], _) => none
  | (digits, rest) => some ((negative, digits), rest)

/-- The limits of an exponent: 32 bits with a sign. -/
def clampExponent (e : Int) : Int := max (-2147483648) (min 2147483647 e)

/-- The double for a significand and an exponent. An exponent beyond 32 bits leaves only zero. -/
def Significand.withExponent (s : Significand) (negative : Bool) (digits : List Char) :
    Option Float :=
  let e : Int := digitsValue 10 0 digits
  if e > 2147483647 then
    if s.digits = 0 ∨ negative then some 0 else none
  else
    Significand.toFloat? ⟨s.digits, clampExponent (if negative then s.scale - e else s.scale + e)⟩

/-- Takes the whole part of a number: a zero, or digits that do not start with one. -/
def wholePart : Scan (List Char) := fun text ↦
  match Scan.run Char.isDigit text with
  | ([], _) => none
  | ('0' :: _ :: _, _) => none
  | (digits, rest) => some (digits, rest)

/-- Takes a number without its sign. -/
def unsignedNumber (negative : Bool) : Scan Json := fun text ↦ do
  let (digits, rest) ← wholePart text
  let whole := Significand.extend 0 1 ⟨0, 0⟩ digits
  let (fraction, rest) ← match rest with
    | '.' :: rest =>
      match Scan.run Char.isDigit rest with
      | ([], _) => none
      | (fraction, rest) => some (some fraction, rest)
    | rest => some (none, rest)
  let s := Significand.extend (-1) 0 whole (fraction.getD [])
  let signed := fun (x : Float) ↦ Json.float (if negative then -x else x)
  match rest with
  | 'e' :: rest | 'E' :: rest =>
    let ((down, e), rest) ← exponentPart rest
    let x ← s.withExponent down e
    some (signed x, rest)
  | rest =>
    if fraction.isNone ∧ whole.scale = 0 then
      if negative then
        if 0 < whole.digits ∧ whole.digits ≤ signedBound then
          some (.int (-(whole.digits : Int)), rest)
        else some (.float (-(Float.ofNat whole.digits)), rest)
      else some (.int whole.digits, rest)
    else
      let x ← s.toFloat?
      some (signed x, rest)

/-- Takes a number. -/
def number : Scan Json := fun text ↦
  match text with
  | '-' :: rest => unsignedNumber true rest
  | text => unsignedNumber false text

/-! ## Strings -/

/-- Takes four hexadecimal digits. -/
def hexQuad : Scan Nat := fun text ↦
  match text with
  | a :: b :: c :: d :: rest =>
    if [a, b, c, d].all (isDigitOf 16) then some (digitsValue 16 0 [a, b, c, d], rest) else none
  | _ => none

/-- Takes the rest of an escape that starts with `u`: one code, or the two halves of a character
beyond U+FFFF. -/
def unicodeEscape : Scan Char := fun text ↦ do
  let (high, rest) ← hexQuad text
  if 0xD800 ≤ high ∧ high < 0xDC00 then
    match rest with
    | '\\' :: 'u' :: rest =>
      let (low, rest) ← hexQuad rest
      if 0xDC00 ≤ low ∧ low < 0xE000 then
        let c ← charOfCode? (0x10000 + (high - 0xD800) * 0x400 + (low - 0xDC00))
        some (c, rest)
      else none
    | _ => none
  else
    let c ← charOfCode? high
    some (c, rest)

/-- Takes what follows the backslash of an escape. -/
def escape : Scan Char := fun text ↦
  match text with
  | '"' :: rest => some ('"', rest)
  | '\\' :: rest => some ('\\', rest)
  | '/' :: rest => some ('/', rest)
  | 'b' :: rest => some ('\x08', rest)
  | 'f' :: rest => some ('\x0c', rest)
  | 'n' :: rest => some ('\n', rest)
  | 'r' :: rest => some ('\r', rest)
  | 't' :: rest => some ('\t', rest)
  | 'u' :: rest => unicodeEscape rest
  | _ => none

/-- Takes the characters of a string up to and including the closing quote. Each round takes at
least one character. -/
def stringBody : Nat → Scan (List Char)
  | 0, _ => none
  | rounds + 1, text =>
    match text with
    | [] => none
    | '"' :: rest => some ([], rest)
    | '\\' :: rest => do
      let (c, rest) ← escape rest
      let (body, rest) ← stringBody rounds rest
      some (c :: body, rest)
    | c :: rest =>
      if c.toNat < 0x20 then none
      else do
        let (body, rest) ← stringBody rounds rest
        some (c :: body, rest)

/-- Takes a string. -/
def string : Scan String := fun text ↦
  match text with
  | '"' :: rest => (stringBody (rest.length + 1) rest).map fun (body, rest) ↦
    (String.ofList body, rest)
  | _ => none

/-! ## Values -/

/-- Takes a comma between blanks. -/
def comma : Scan Unit := fun text ↦
  (Scan.expect [','] (skipBlanks text)).map fun ((), rest) ↦ ((), skipBlanks rest)

/-- Takes a closing mark, with blanks in front of it. -/
def closing (mark : Char) : Scan Unit := fun text ↦ Scan.expect [mark] (skipBlanks text)

/-- Takes a field, given how to take its value. -/
def field (value : Scan Json) : Scan (String × Json) := fun text ↦ do
  let (name, rest) ← string text
  let ((), rest) ← Scan.expect [':'] (skipBlanks rest)
  let (v, rest) ← value (skipBlanks rest)
  some ((name, v), rest)

/-- Takes a value that nests at most `depth` deep. -/
def value : Nat → Scan Json
  | depth, text =>
    match text with
    | 'n' :: 'u' :: 'l' :: 'l' :: rest => some (.null, rest)
    | 't' :: 'r' :: 'u' :: 'e' :: rest => some (.bool true, rest)
    | 'f' :: 'a' :: 'l' :: 's' :: 'e' :: rest => some (.bool false, rest)
    | '"' :: _ => (string text).map fun (s, rest) ↦ (.str s, rest)
    | '[' :: rest =>
      match depth with
      | 0 => none
      | depth + 1 =>
        (Scan.enclosed (value depth) comma (closing ']') (skipBlanks rest)).map fun (items, rest) ↦
          (.arr items, rest)
    | '{' :: rest =>
      match depth with
      | 0 => none
      | depth + 1 =>
        (Scan.enclosed (field (value depth)) comma (closing '}') (skipBlanks rest)).map
          fun (fields, rest) ↦ (.obj fields, rest)
    | text => number text

/-- Reads a text that is one value with blanks around it. -/
def read? (text : String) : Option Json :=
  match value maxDepth (skipBlanks text.toList) with
  | some (v, rest) => if (skipBlanks rest).isEmpty then some v else none
  | none => none

end Phrasebook.Json
