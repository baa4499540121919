import Phrasebook.Opener
import Phrasebook.Relevance
import Phrasebook.Resolution
import Phrasebook.Snapshot

/-!
# Routing

How a request finds its alias. A request that has the form of a phrase goes to that phrase; else the
request without its opener gets the same chance; else the aliases that share keywords with it are
suggested. Exact forms come first, so that a vague resemblance never takes the place of a command.

Among several exact matches, and among several suggestions, an order decides that does not depend on
chance: each pair of entries is compared by fixed properties.
-/

namespace Phrasebook

/-- An entry whose phrase has the form of a text, and what its placeholders took. -/
structure ExactMatch where
  entry : Entry
  captures : Captures

namespace Entry

/-- The match of an entry with the whole of a text. -/
def match? (entry : Entry) (text : String) : Option ExactMatch :=
  (entry.pattern.captures? text).map (ExactMatch.mk entry)

/-- Whether `a` goes before `b` when both match: by lower priority, then the layers of a few before
the public one, then by later definition. -/
def precedes (a b : Entry) : Bool :=
  match compare a.definition.priority.toInt b.definition.priority.toInt with
  | .lt => true
  | .gt => false
  | .eq =>
    match a.definition.isPublic, b.definition.isPublic with
    | false, true => true
    | true, false => false
    | _, _ => b.position < a.position

end Entry

namespace Routing

/-- The match that goes before all others; of two equal ones the first. -/
def best : List ExactMatch → Option ExactMatch
  | [] => none
  | first :: rest =>
    some (rest.foldl (fun chosen found ↦
      if found.entry.precedes chosen.entry then found else chosen) first)

/-- The match of a whole text among some entries. -/
def bestExact (entries : List Entry) (text : String) : Option ExactMatch :=
  best (entries.filterMap (·.match? text))

/-- The outcome for a match. -/
def resolutionOf (kind : MatchKind) (found : ExactMatch) : Resolution :=
  .matched found.entry.id kind found.captures (found.entry.definition.plan found.captures)

/-! ## Suggestions -/

/-- An entry with its relevance for a request. -/
structure Ranked (R : Type) where
  entry : Entry
  score : R

section

variable {R : Type} (arith : Arithmetic R)

/-- Whether `a` may stand before `b`: by higher score, then by more literal text, then by lower
priority, then by id. -/
def Ranked.before (a b : Ranked R) : Bool :=
  if arith.lt b.score a.score then true
  else if arith.lt a.score b.score then false
  else
    match compare b.entry.pattern.literalLength a.entry.pattern.literalLength with
    | .lt => true
    | .gt => false
    | .eq =>
      match compare a.entry.definition.priority.toInt b.entry.definition.priority.toInt with
      | .lt => true
      | .gt => false
      | .eq => a.entry.id ≤ b.entry.id

/-- The entries that share a keyword with the request, each with its relevance. Keywords weigh by
how rare they are among all the entries. -/
def overlapping (entries : List Entry) (request : NameSet) : List (Ranked R) :=
  let weights := KeywordWeights.ofBags (entries.map (·.keywords))
  (entries.filter fun entry ↦ !entry.keywords.disjoint request).map fun entry ↦
    ⟨entry, weights.score arith request entry.keywords⟩

/-- The entries that share a keyword with the request, best first, at most `limit` of them. -/
def rank (entries : List Entry) (request : NameSet) (limit : Nat) : List (Ranked R) :=
  ((overlapping arith entries request).mergeSort (Ranked.before arith)).take limit

end

/-- The suggestion for a ranked entry. -/
def suggestionOf (ranked : Ranked Float) : Suggestion :=
  ⟨ranked.entry.id, ranked.entry.definition.displayDescription, ranked.score⟩

/-- The entries to suggest for a request, best first. -/
def suggest (entries : List Entry) (request : String) (limit : Nat) : List Suggestion :=
  (rank Arithmetic.double entries (Keyword.keywordSet request) limit).map suggestionOf

/-! ## Stages -/

/-- What a request comes to among the entries that take part. -/
def route (entries : List Entry) (request : String) (limit : Nat) : Resolution :=
  let text := Text.trim request
  if text.isEmpty then .noMatch
  else
    match bestExact entries text with
    | some found => resolutionOf .exact found
    | none =>
      let stripped := Opener.strip text
      let again := if stripped.isEmpty || stripped == text then none else bestExact entries stripped
      match again with
      | some found => resolutionOf .exactStripped found
      | none =>
        let candidates := suggest entries text limit
        if candidates.isEmpty then .noMatch else .suggestions candidates

end Routing

/-- What a request made in the scope comes to. -/
def Snapshot.resolve (snapshot : Snapshot) (request : String) (scope : Scope) (limit : Nat) :
    Resolution :=
  Routing.route (snapshot.eligible scope) request limit

end Phrasebook
