/-!
# Scanning

A scan takes something off the front of a text and returns it with the rest, or fails. Scans never
look behind them, so what a scan accepts is a property of the text it is given.
-/

namespace Phrasebook.Text

/-- Takes an `α` off the front of a text. -/
abbrev Scan (α : Type) := List Char → Option (α × List Char)

namespace Scan

variable {α : Type}

/-- Takes the given characters. -/
def expect (word : List Char) : Scan Unit := fun text ↦
  (word.isPrefixOf? text).map fun rest ↦ ((), rest)

/-- Takes the longest run of characters that satisfy `p`. -/
def run (p : Char → Bool) (text : List Char) : List Char × List Char :=
  (text.takeWhile p, text.dropWhile p)

/-- Takes items with `sep` between neighbours, and then `close`. Each round takes at least a
separator, so a bound on the rounds that exceeds the length of the text is no restriction. -/
def separated (item : Scan α) (sep close : Scan Unit) : Nat → Scan (List α)
  | 0, _ => none
  | rounds + 1, text => do
    let (first, rest) ← item text
    match close rest with
    | some ((), rest) => some ([first], rest)
    | none =>
      let ((), rest) ← sep rest
      let (items, rest) ← separated item sep close rounds rest
      some (first :: items, rest)

/-- Takes `close` at once, or items with `sep` between neighbours and then `close`. -/
def enclosed (item : Scan α) (sep close : Scan Unit) : Scan (List α) := fun text ↦
  match close text with
  | some ((), rest) => some ([], rest)
  | none => separated item sep close (text.length + 1) text

end Scan

/-- The value of a digit, in either case, for bases up to sixteen. -/
def digitValue? (base : Nat) (c : Char) : Option Nat :=
  let value :=
    if '0' ≤ c ∧ c ≤ '9' then c.toNat - '0'.toNat
    else if 'a' ≤ c ∧ c ≤ 'f' then c.toNat - 'a'.toNat + 10
    else if 'A' ≤ c ∧ c ≤ 'F' then c.toNat - 'A'.toNat + 10
    else base
  if value < base then some value else none

/-- Whether `c` is a digit of the base. -/
def isDigitOf (base : Nat) (c : Char) : Bool := (digitValue? base c).isSome

/-- The number written by some digits, continuing from `start`. -/
def digitsValue (base : Nat) (start : Nat) (digits : List Char) : Nat :=
  digits.foldl (fun n c ↦ n * base + (digitValue? base c).getD 0) start

/-- The character with the given code, unless the code is a surrogate or too large. -/
def charOfCode? (code : Nat) : Option Char :=
  if h : code.isValidChar then some ⟨code.toUInt32, by
    simpa [UInt32.isValidChar, Nat.toUInt32, Nat.mod_eq_of_lt
      (show code < 4294967296 by unfold Nat.isValidChar at h; omega)] using h⟩
  else none

end Phrasebook.Text
