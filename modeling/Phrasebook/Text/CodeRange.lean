/-!
# Ranges of code points

A property of characters is given as data: the ranges of code points that have it, in ascending
order. Everything the library knows about a property is read off its table through `holds`.
-/

namespace Phrasebook.Text

/-- Closed ranges of code points, ascending and pairwise disjoint. -/
abbrev CodeRanges := List (Nat × Nat)

/-- Whether some range contains `n`; a range that starts above `n` ends the search. -/
def CodeRanges.holds : CodeRanges → Nat → Bool
  | [], _ => false
  | (first, last) :: rest, n =>
    if n < first then false else if n ≤ last then true else CodeRanges.holds rest n

end Phrasebook.Text
