import Phrasebook.Proofs.Routing.Outcome

/-!
# Routing without positions

An entry carries its place among all entries of its snapshot, and the place decides between equal
matches. The number itself must not matter, only which of two entries was defined later: otherwise
aliases that a caller cannot see would shift the outcome by taking up places.

Here the number is taken out. For entries listed in order of definition `displaces` compares two of
them by what their authors wrote, given which is the later one, and `bestInOrder` chooses with it
what `best` chooses by position. So two such lists whose entries agree in all but their places route
every request alike.
-/

namespace Phrasebook

/-! ## Entries without their place -/

/-- The entry as if it stood in the first place. -/
def Entry.unplaced (entry : Entry) : Entry := { entry with position := 0 }

/-- The match as if its entry stood in the first place. -/
def ExactMatch.unplaced (found : ExactMatch) : ExactMatch := ⟨found.entry.unplaced, found.captures⟩

/-- The ranked entry as if it stood in the first place. -/
def Routing.Ranked.unplaced {R : Type} (ranked : Routing.Ranked R) : Routing.Ranked R :=
  ⟨ranked.entry.unplaced, ranked.score⟩

@[simp] theorem Entry.match?_unplaced (entry : Entry) (text : String) :
    entry.unplaced.match? text = (entry.match? text).map ExactMatch.unplaced := by
  rw [Entry.match?, Entry.match?, Option.map_map]
  rfl

/-- Whether the later of two entries goes before the earlier one when both match: by lower priority,
then unless it is public and the earlier one is not. -/
def Entry.displaces (later earlier : Entry) : Bool :=
  match compare later.definition.priority.toInt earlier.definition.priority.toInt with
  | .lt => true
  | .gt => false
  | .eq => !later.definition.isPublic || earlier.definition.isPublic

theorem Entry.precedes_eq_displaces {later earlier : Entry}
    (h : earlier.position < later.position) : later.precedes earlier = later.displaces earlier := by
  rw [Entry.precedes, Entry.displaces]
  cases compare later.definition.priority.toInt earlier.definition.priority.toInt with
  | lt => rfl
  | gt => rfl
  | eq =>
    have hlater : decide (earlier.position < later.position) = true := decide_eq_true h
    cases later.definition.isPublic <;> cases earlier.definition.isPublic
    · exact hlater
    · rfl
    · rfl
    · exact hlater

namespace Routing

/-! ## Exact matches in order of definition -/

/-- The match that goes before all others, for matches in order of definition. -/
def bestInOrder : List ExactMatch → Option ExactMatch
  | [] => none
  | first :: rest =>
    some (rest.foldl (fun chosen found ↦
      if found.entry.displaces chosen.entry then found else chosen) first)

/-- The one chosen so far is always earlier than those still to come. -/
theorem foldl_precedes_eq (rest : List ExactMatch) : ∀ first : ExactMatch,
    (first :: rest).Pairwise (fun a b ↦ a.entry.position < b.entry.position) →
    rest.foldl (fun chosen found ↦
        if found.entry.precedes chosen.entry then found else chosen) first =
      rest.foldl (fun chosen found ↦
        if found.entry.displaces chosen.entry then found else chosen) first := by
  induction rest with
  | nil => intro first _; rfl
  | cons next rest ih =>
    intro first hascending
    obtain ⟨hfirst, hrest⟩ := List.pairwise_cons.mp hascending
    have hnext : first.entry.position < next.entry.position := hfirst next List.mem_cons_self
    rw [List.foldl_cons, List.foldl_cons, Entry.precedes_eq_displaces hnext]
    by_cases h : next.entry.displaces first.entry = true
    · rw [if_pos h]
      exact ih next hrest
    · rw [if_neg h]
      exact ih first (List.pairwise_cons.mpr
        ⟨fun other hother ↦ hfirst other (List.mem_cons_of_mem next hother),
          (List.pairwise_cons.mp hrest).2⟩)

theorem best_eq_bestInOrder : ∀ {choices : List ExactMatch},
    choices.Pairwise (fun a b ↦ a.entry.position < b.entry.position) →
    best choices = bestInOrder choices
  | [], _ => rfl
  | first :: rest, h => by rw [best, bestInOrder, foldl_precedes_eq rest first h]

theorem foldl_displaces_unplaced (rest : List ExactMatch) : ∀ first : ExactMatch,
    (rest.map ExactMatch.unplaced).foldl (fun chosen found ↦
        if found.entry.displaces chosen.entry then found else chosen) first.unplaced =
      (rest.foldl (fun chosen found ↦
        if found.entry.displaces chosen.entry then found else chosen) first).unplaced := by
  induction rest with
  | nil => intro first; rfl
  | cons next rest ih =>
    intro first
    have hsame : next.unplaced.entry.displaces first.unplaced.entry =
        next.entry.displaces first.entry := rfl
    rw [List.map_cons, List.foldl_cons, List.foldl_cons, hsame]
    by_cases h : next.entry.displaces first.entry = true
    · rw [if_pos h, if_pos h, ih]
    · rw [if_neg h, if_neg h, ih]

theorem bestInOrder_map_unplaced : ∀ choices : List ExactMatch,
    bestInOrder (choices.map ExactMatch.unplaced) = (bestInOrder choices).map ExactMatch.unplaced
  | [] => rfl
  | first :: rest => by
    rw [List.map_cons, bestInOrder, bestInOrder, foldl_displaces_unplaced, Option.map_some]

theorem bestExact_unplaced {entries : List Entry} (text : String)
    (h : entries.Pairwise fun a b ↦ a.position < b.position) :
    (bestExact entries text).map ExactMatch.unplaced =
      bestInOrder ((entries.map Entry.unplaced).filterMap (·.match? text)) := by
  have hascending : (entries.filterMap (·.match? text)).Pairwise
      fun a b ↦ a.entry.position < b.entry.position := by
    -- every match is at the place of its entry
    refine List.pairwise_filterMap.mpr (h.imp fun {a b} hab found hfound other hother ↦ ?_)
    obtain ⟨_, -, rfl⟩ := Option.map_eq_some_iff.mp hfound
    obtain ⟨_, -, rfl⟩ := Option.map_eq_some_iff.mp hother
    exact hab
  rw [bestExact, best_eq_bestInOrder hascending, ← bestInOrder_map_unplaced, List.map_filterMap,
    List.filterMap_map]
  simp only [Function.comp_def, Entry.match?_unplaced]

/-! ## Suggestions -/

section

variable {R : Type} (arith : Arithmetic R)

theorem before_unplaced (a b : Ranked R) :
    Ranked.before arith a b = Ranked.before arith a.unplaced b.unplaced := by
  unfold Ranked.before Ranked.unplaced Entry.unplaced
  -- a plain `rfl` would compare the literal texts by evaluating them
  with_reducible rfl

theorem overlapping_map_unplaced (entries : List Entry) (request : NameSet) :
    overlapping arith (entries.map Entry.unplaced) request =
      (overlapping arith entries request).map Ranked.unplaced := by
  have hbags : (entries.map Entry.unplaced).map (·.keywords) = entries.map (·.keywords) := by
    rw [List.map_map]
    rfl
  rw [overlapping, overlapping, hbags, List.filter_map, List.map_map, List.map_map]
  rfl

theorem rank_map_unplaced (entries : List Entry) (request : NameSet) (limit : Nat) :
    rank arith (entries.map Entry.unplaced) request limit =
      (rank arith entries request limit).map Ranked.unplaced := by
  rw [rank, rank, overlapping_map_unplaced, List.map_take,
    List.map_mergeSort fun a _ b _ ↦ before_unplaced arith a b]

end

/-- What is suggested of a ranked entry does not depend on its place, in whatever arithmetic the
scores are computed. -/
theorem map_suggestionOf_rank_unplaced (arith : Arithmetic Float) (entries : List Entry)
    (request : NameSet) (limit : Nat) :
    (rank arith (entries.map Entry.unplaced) request limit).map suggestionOf =
      (rank arith entries request limit).map suggestionOf := by
  have hsuggestion : suggestionOf ∘ Ranked.unplaced = suggestionOf := by
    funext ranked
    rfl
  rw [rank_map_unplaced, List.map_map, hsuggestion]

theorem suggest_map_unplaced (entries : List Entry) (request : String) (limit : Nat) :
    suggest (entries.map Entry.unplaced) request limit = suggest entries request limit :=
  map_suggestionOf_rank_unplaced Arithmetic.double entries (Keyword.keywordSet request) limit

/-! ## The stages together -/

/-- **Only the order of the entries counts.** -/
theorem route_eq_of_map_unplaced_eq {entries others : List Entry}
    (h : entries.Pairwise fun a b ↦ a.position < b.position)
    (hothers : others.Pairwise fun a b ↦ a.position < b.position)
    (hsame : entries.map Entry.unplaced = others.map Entry.unplaced) (request : String)
    (limit : Nat) : route entries request limit = route others request limit := by
  have hexact : ∀ text kind, (bestExact entries text).map (resolutionOf kind) =
      (bestExact others text).map (resolutionOf kind) := by
    intro text kind
    have hbest : (bestExact entries text).map ExactMatch.unplaced =
        (bestExact others text).map ExactMatch.unplaced := by
      rw [bestExact_unplaced text h, bestExact_unplaced text hothers, hsame]
    -- what is reported about a match does not depend on its place
    have hmapped := congrArg (Option.map (resolutionOf kind)) hbest
    rwa [Option.map_map, Option.map_map] at hmapped
  have hsuggest : ∀ text, suggest entries text limit = suggest others text limit := by
    intro text
    rw [← suggest_map_unplaced entries, hsame, suggest_map_unplaced]
  have hrematch : ∀ text kind, (rematch entries text).map (resolutionOf kind) =
      (rematch others text).map (resolutionOf kind) := by
    intro text kind
    rw [rematch, rematch]
    by_cases hskip : Opener.strip text = "" ∨ Opener.strip text = text
    · rw [if_pos hskip, if_pos hskip]
    · rw [if_neg hskip, if_neg hskip, hexact]
  rw [route_eq, route_eq, hexact, hrematch, hsuggest]

end Routing

end Phrasebook
