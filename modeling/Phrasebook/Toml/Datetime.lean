import Phrasebook.Text.Scan

/-!
# Dates and times in TOML

A date, a time of day, or both with a `T` or a space between them and then perhaps an offset. Days
have to exist; a minute may have a leap second. Of a second at most nine decimals are kept.
-/

namespace Phrasebook.Toml

open Phrasebook.Text

/-- A day. -/
structure Date where
  year : Nat
  month : Nat
  day : Nat

/-- A time of day. -/
structure Time where
  hour : Nat
  minute : Nat
  second : Nat
  nanosecond : Nat

/-- How far a time is ahead of universal time. -/
inductive Offset where
  | universal
  | minutes (count : Int)

/-- A date, a time, or both. -/
structure Datetime where
  date : Option Date := none
  time : Option Time := none
  offset : Option Offset := none

namespace Datetime

/-! ## Writing -/

/-- A number in decimal digits, with zeros in front up to a width. -/
def padded (width n : Nat) : List Char :=
  let digits := Nat.toDigits 10 n
  List.replicate (width - digits.length) '0' ++ digits

/-- The decimals of a second, without zeros at the end. -/
def fractionText (nanosecond : Nat) : List Char :=
  if nanosecond = 0 then []
  else '.' :: ((padded 9 nanosecond).reverse.dropWhile (· = '0')).reverse

/-- The text of a date. -/
def dateText (date : Date) : List Char :=
  padded 4 date.year ++ '-' :: padded 2 date.month ++ '-' :: padded 2 date.day

/-- The text of a time. -/
def timeText (time : Time) : List Char :=
  padded 2 time.hour ++ ':' :: padded 2 time.minute ++ ':' :: padded 2 time.second ++
    fractionText time.nanosecond

/-- The text of an offset. -/
def offsetText : Offset → List Char
  | .universal => ['Z']
  | .minutes count =>
    (if count < 0 then '-' else '+') ::
      padded 2 (count.natAbs / 60) ++ ':' :: padded 2 (count.natAbs % 60)

/-- The text of a date and time, with a `T` between them. -/
def text (d : Datetime) : String :=
  let date := (d.date.map dateText).getD []
  let time := (d.time.map timeText).getD []
  let between := if d.date.isSome && d.time.isSome then ['T'] else []
  String.ofList (date ++ between ++ time ++ (d.offset.map offsetText).getD [])

/-! ## Reading -/

/-- Takes exactly `count` digits. -/
def digits (count : Nat) : Scan Nat := fun text ↦
  let taken := text.take count
  if taken.length = count ∧ taken.all Char.isDigit then
    some (digitsValue 10 0 taken, text.drop count)
  else none

/-- Takes two digits whose value lies between two bounds. -/
def pair (low high : Nat) : Scan Nat := fun text ↦
  (digits 2 text).filter fun (n, _) ↦ decide (low ≤ n ∧ n ≤ high)

/-- Whether a year has a 29 February. -/
def isLeapYear (year : Nat) : Bool := year % 4 = 0 && (year % 100 != 0 || year % 400 = 0)

/-- The number of days of a month. -/
def daysIn (year month : Nat) : Nat :=
  if month = 2 then if isLeapYear year then 29 else 28
  else if month = 4 ∨ month = 6 ∨ month = 9 ∨ month = 11 then 30
  else 31

/-- Takes a date. -/
def scanDate : Scan Date := fun text ↦ do
  let (year, text) ← digits 4 text
  let ((), text) ← Scan.expect ['-'] text
  let (month, text) ← pair 1 12 text
  let ((), text) ← Scan.expect ['-'] text
  let (day, text) ← pair 1 (daysIn year month) text
  some (⟨year, month, day⟩, text)

/-- Takes the decimals of a second, if there are any. -/
def scanFraction (text : List Char) : Nat × List Char :=
  match text with
  | '.' :: rest =>
    match Scan.run Char.isDigit rest with
    | ([], _) => (0, text)
    | (decimals, rest) =>
      let kept := decimals.take 9
      (digitsValue 10 0 kept * Nat.pow 10 (9 - kept.length), rest)
  | _ => (0, text)

/-- Takes a time. -/
def scanTime : Scan Time := fun text ↦ do
  let (hour, text) ← pair 0 23 text
  let ((), text) ← Scan.expect [':'] text
  let (minute, text) ← pair 0 59 text
  let ((), text) ← Scan.expect [':'] text
  let (second, text) ← pair 0 60 text
  let (nanosecond, text) := scanFraction text
  some (⟨hour, minute, second, nanosecond⟩, text)

/-- Takes the digits of an offset. -/
def scanOffsetMinutes : Scan Nat := fun text ↦ do
  let (hour, text) ← pair 0 23 text
  let ((), text) ← Scan.expect [':'] text
  let (minute, text) ← pair 0 59 text
  some (hour * 60 + minute, text)

/-- Takes an offset. -/
def scanOffset : Scan Offset := fun text ↦
  match text with
  | 'Z' :: rest | 'z' :: rest => some (.universal, rest)
  | '+' :: rest => (scanOffsetMinutes rest).map fun (n, rest) ↦ (.minutes n, rest)
  | '-' :: rest => (scanOffsetMinutes rest).map fun (n, rest) ↦ (.minutes (-n), rest)
  | _ => none

/-- Takes the time that may follow a date, with its offset. -/
def scanTimeOfDate : Scan (Time × Option Offset) := fun text ↦
  match text with
  | mark :: rest =>
    if mark = 'T' ∨ mark = 't' ∨ mark = ' ' then do
      let (time, rest) ← scanTime rest
      match scanOffset rest with
      | some (offset, rest) => some ((time, some offset), rest)
      | none => some ((time, none), rest)
    else none
  | [] => none

/-- Takes a date, a time, or both. -/
def scan : Scan Datetime := fun text ↦
  match scanDate text with
  | some (date, rest) =>
    match scanTimeOfDate rest with
    | some ((time, offset), rest) => some (⟨some date, some time, offset⟩, rest)
    | none => some (⟨some date, none, none⟩, rest)
  | none => (scanTime text).map fun (time, rest) ↦ (⟨none, some time, none⟩, rest)

end Phrasebook.Toml.Datetime
