/-!
# Policies

How long a snapshot of a phrasebook serves, what happens when a new one cannot be had, and how many
suggestions a request gets.
-/

namespace Phrasebook

/-- Nanoseconds in a second. -/
def nanosecondsPerSecond : Nat := 1000000000

/-- How long a snapshot serves, and how many suggestions are made. Times are in nanoseconds. -/
structure Policy where
  /-- The age at which a snapshot is too old; without one it never is. -/
  refreshInterval : Option Nat := some (60 * nanosecondsPerSecond)
  /-- Whether an old snapshot serves when the store fails. -/
  serveStale : Bool := true
  maxSuggestions : Nat := 3
deriving DecidableEq, Repr

/-- Whether a snapshot of the given age is too old. -/
def Policy.isExpired (policy : Policy) (age : Nat) : Bool :=
  match policy.refreshInterval with
  | none => false
  | some interval => interval ≤ age

end Phrasebook
