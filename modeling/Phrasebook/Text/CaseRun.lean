/-!
# Runs of a case mapping

A mapping of characters to characters that moves long runs of code points by one distance. Many
scripts alternate capital and small letters, so a run may also take every second code point.
-/

namespace Phrasebook.Text

/-- The code points `first`, `first + stride`, … up to `last`, each moved by `shift`. -/
structure CaseRun where
  first : Nat
  last : Nat
  stride : Nat
  shift : Int

/-- The image of `n` under the ascending runs, or `n` itself when no run holds it. -/
def CaseRun.image : List CaseRun → Nat → Nat
  | [], n => n
  | run :: rest, n =>
    if n < run.first then n
    else if n ≤ run.last ∧ (n - run.first) % run.stride = 0 then (n + run.shift).toNat
    else CaseRun.image rest n

/-- The character the runs send `c` to. -/
def CaseRun.imageChar (runs : List CaseRun) (c : Char) : Char :=
  Char.ofNat (CaseRun.image runs c.toNat)

end Phrasebook.Text
