import Phrasebook.Plan

/-!
# Resolutions

What a request comes to: the plan of one alias, a few aliases to choose from, or nothing.
-/

namespace Phrasebook

/-- How a request was matched. -/
inductive MatchKind where
  /-- The request as it stands has the form of a phrase. -/
  | exact
  /-- The request without its opener has the form of a phrase. -/
  | exactStripped
  /-- The request shares keywords with a phrase. -/
  | fuzzy
deriving DecidableEq, Repr

/-- The kind in a word. -/
def MatchKind.label : MatchKind → String
  | exact => "exact"
  | exactStripped => "exact_stripped"
  | fuzzy => "fuzzy"

/-- An alias that may have been meant. -/
structure Suggestion where
  aliasId : String
  description : String
  /-- The part of the alias that the request covers. -/
  score : Float

/-- What a request comes to. -/
inductive Resolution where
  | noMatch
  | matched (aliasId : String) (kind : MatchKind) (captures : Captures) (plan : Plan)
  | suggestions (candidates : List Suggestion)

namespace Resolution

instance : Inhabited Resolution := ⟨noMatch⟩

/-- Whether one alias was matched. -/
def isMatch : Resolution → Bool
  | matched .. => true
  | _ => false

theorem isMatch_iff {result : Resolution} :
    result.isMatch = true ↔ ∃ id kind captures plan, result = matched id kind captures plan := by
  cases result with
  | matched id kind captures plan => exact ⟨fun _ ↦ ⟨id, kind, captures, plan, rfl⟩, fun _ ↦ rfl⟩
  | noMatch | suggestions => exact ⟨nofun, nofun⟩

/-- Whether nothing was found. -/
def isNoMatch : Resolution → Bool
  | noMatch => true
  | _ => false

/-- The plan of the matched alias. -/
def plan? : Resolution → Option Plan
  | matched _ _ _ plan => some plan
  | _ => none

/-- How the request was matched. -/
def kind? : Resolution → Option MatchKind
  | noMatch => none
  | matched _ kind _ _ => some kind
  | suggestions _ => some .fuzzy

/-- The outcome in a word. -/
def label : Resolution → String
  | noMatch => "no_match"
  | matched _ kind _ _ => kind.label
  | suggestions _ => "suggestions"

/-- The keys of the aliases it speaks of, best first. -/
def aliasIds : Resolution → List String
  | noMatch => []
  | matched aliasId _ _ _ => [aliasId]
  | suggestions candidates => candidates.map (·.aliasId)

end Resolution

end Phrasebook
