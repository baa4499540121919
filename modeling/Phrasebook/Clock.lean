import Phrasebook.Toml.Datetime

/-!
# Clock times

A point in time is a number of milliseconds since the start of 1970 and is written as a date and a
time of day in universal time, with three decimals of a second.
-/

namespace Phrasebook.Clock

open Toml (Date Time)

/-- Days in four hundred years, after which the calendar repeats itself. -/
def daysPerCycle : Nat := 146097

/-- The date that lies the given number of days after the start of March in the year 0. A year that
starts with March has its leap day at the end, so the months before it never shift. -/
def dateOfDays (days : Nat) : Date :=
  let cycle := days / daysPerCycle
  let day := days % daysPerCycle
  let year := (day - day / 1460 + day / 36524 - day / 146096) / 365
  let dayOfYear := day - (365 * year + year / 4 - year / 100)
  let month := (5 * dayOfYear + 2) / 153
  let dayOfMonth := dayOfYear - (153 * month + 2) / 5 + 1
  let year := 400 * cycle + year
  if month < 10 then ⟨year, month + 3, dayOfMonth⟩ else ⟨year + 1, month - 9, dayOfMonth⟩

/-- Days from the start of March in the year 0 to the start of 1970. -/
def daysToEpoch : Nat := 719468

/-- The text of a point in time. -/
def text (milliseconds : Nat) : String :=
  let seconds := milliseconds / 1000
  let date := dateOfDays (seconds / 86400 + daysToEpoch)
  let time : Time := ⟨seconds / 3600 % 24, seconds / 60 % 60, seconds % 60, 0⟩
  String.ofList (Toml.Datetime.dateText date ++ 'T' :: Toml.Datetime.timeText time ++
    '.' :: Toml.Datetime.padded 3 (milliseconds % 1000) ++ ['Z'])

end Phrasebook.Clock
