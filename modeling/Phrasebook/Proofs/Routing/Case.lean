import Phrasebook.Proofs.Pattern.Case
import Phrasebook.Proofs.Routing.Outcome

/-!
# Requests in another case

How a request is written makes no difference: neither the blanks around it nor the case of its ASCII
letters. Two requests that differ in nothing else have the same outcome, up to the case of what they
say themselves.

The argument follows the two requests through the stages side by side. Stage by stage the parts that
are looked at are at the same places of the two: what is left without an opener, what a placeholder
takes, and in the end what is captured. Keywords are taken in lower case, so there nothing is left
of the difference, and the suggestions are the same down to their scores.
-/

namespace Phrasebook

open Text

/-! ## Openers -/

namespace Opener

variable {first second : List Char}

theorem after?_rel (opener : List Char) (h : CaseVariant first second) :
    Option.Rel (SamePlace first second) (after? opener first) (after? opener second) := by
  induction opener generalizing first second with
  | nil =>
    rw [after?, after?]
    exact Option.Rel.some h.samePlace_self
  | cons a opener ih =>
    cases first with
    | nil =>
      rw [h.eq_nil_iff.mp rfl, after?]
      exact Option.Rel.none
    | cons b first =>
      obtain ⟨c, rest, rfl, hletter, hrest⟩ := List.map_eq_cons_iff.mp h.symm
      have hlater : SamePlace (b :: first) (c :: rest) first rest := h.samePlace_drop 1
      rw [after?, after?, hletter]
      by_cases hopener : a.toLower = b.toLower
      · rw [if_pos hopener, if_pos hopener]
        exact optionRel_imp (ih hrest.symm) fun _ _ hplace ↦ hlater.trans hplace
      · rw [if_neg hopener, if_neg hopener]
        exact Option.Rel.none

theorem endsWord_eq (h : CaseVariant first second) : endsWord first = endsWord second := by
  cases first with
  | nil => rw [h.eq_nil_iff.mp rfl]
  | cons c first =>
    obtain ⟨d, rest, rfl, hletter, -⟩ := List.map_eq_cons_iff.mp h.symm
    rw [endsWord, endsWord, ← isAlphanumeric_toLower c, ← hletter, isAlphanumeric_toLower]

theorem afterWords?_rel (opener : List Char) (h : CaseVariant first second) :
    Option.Rel (SamePlace first second) (afterWords? first opener) (afterWords? second opener) := by
  rw [afterWords?, afterWords?]
  rcases optionRel_cases (after?_rel opener h) with
    ⟨hfirst, hsecond⟩ | ⟨rest, other, hfirst, hsecond, hplace⟩
  · rw [hfirst, hsecond]
    exact Option.Rel.none
  · rw [hfirst, hsecond, Option.filter_some, Option.filter_some,
      endsWord_eq (h.of_samePlace hplace)]
    by_cases hword : endsWord other = true
    · rw [if_pos hword, if_pos hword]
      exact Option.Rel.some hplace
    · rw [if_neg hword, if_neg hword]
      exact Option.Rel.none

/-- The search for the longest opener goes through the openers in step. -/
theorem afterLongest?_rel (h : CaseVariant first second) :
    Option.Rel (SamePlace first second) (afterLongest? first) (afterLongest? second) := by
  let Alike : Nat × List Char → Nat × List Char → Prop := fun found other ↦
    found.1 = other.1 ∧ SamePlace first second found.2 other.2
  rw [afterLongest?, afterLongest?]
  refine optionRel_map (R := Alike) ?_ fun _ _ halike ↦ halike.2
  refine List.rel_foldl (P := Option.Rel Alike) (R := Eq) ?_ Option.Rel.none
    (List.forall₂_refl openers)
  rintro best best' hbest opener _ rfl
  beta_reduce
  rcases optionRel_cases (afterWords?_rel opener.toList h) with
    ⟨hfirst, hsecond⟩ | ⟨rest, other, hfirst, hsecond, hplace⟩
  · rw [hfirst, hsecond]
    exact hbest
  · rw [hfirst, hsecond]
    rcases optionRel_cases hbest with
      ⟨rfl, rfl⟩ | ⟨⟨size, found⟩, ⟨size', found'⟩, rfl, rfl, hsize, hfound⟩
    · exact Option.Rel.some ⟨rfl, hplace⟩
    · obtain rfl : size = size' := hsize
      by_cases hlonger : size ≤ opener.length
      · simp only [hlonger, if_true]
        exact Option.Rel.some ⟨rfl, hplace⟩
      · simp only [hlonger, if_false]
        exact hbest

theorem toList_strip (request : String) :
    (strip request).toList =
      ((afterLongest? (trimChars request.toList)).map trimChars).getD
        (trimChars request.toList) := by
  rw [strip]
  cases afterLongest? (trimChars request.toList) with
  | none => exact String.toList_ofList
  | some rest => exact String.toList_ofList

/-- **Two requests are stripped at the same places.** -/
theorem samePlace_strip {first second : String} (h : CaseVariant first.toList second.toList) :
    SamePlace first.toList second.toList (strip first).toList (strip second).toList := by
  have htrim := h.samePlace_trimChars
  have hvariant := h.of_samePlace htrim
  rw [toList_strip, toList_strip]
  rcases optionRel_cases (afterLongest?_rel hvariant) with
    ⟨hfirst, hsecond⟩ | ⟨rest, other, hfirst, hsecond, hplace⟩
  · rw [hfirst, hsecond]
    exact htrim
  · rw [hfirst, hsecond]
    exact htrim.trans (hplace.trans (hvariant.of_samePlace hplace).samePlace_trimChars)

end Opener

namespace Routing

open Pattern

variable {entries : List Entry} {first second : String}

/-! ## Exact matches -/

/-- The matches are those of one entry, which takes the same parts of the two texts. -/
def SameMatch (first second : String) (found other : ExactMatch) : Prop :=
  found.entry = other.entry ∧ SameParts first second found.captures other.captures

theorem match?_rel (entry : Entry) (h : CaseVariant first.toList second.toList) :
    Option.Rel (SameMatch first second) (entry.match? first) (entry.match? second) :=
  optionRel_map (captures?_rel h) fun _ _ hparts ↦ ⟨rfl, hparts⟩

/-- The choice among matches looks at their entries alone. -/
theorem best_rel {choices others : List ExactMatch}
    (h : List.Forall₂ (SameMatch first second) choices others) :
    Option.Rel (SameMatch first second) (best choices) (best others) := by
  cases h with
  | nil => exact Option.Rel.none
  | cons hfirst hrest =>
    refine Option.Rel.some (List.rel_foldl ?_ hfirst hrest)
    intro chosen chosen' hchosen found found' hfound
    beta_reduce
    rw [hchosen.1, hfound.1]
    by_cases hprecedes : found'.entry.precedes chosen'.entry = true
    · rw [if_pos hprecedes, if_pos hprecedes]
      exact hfound
    · rw [if_neg hprecedes, if_neg hprecedes]
      exact hchosen

theorem bestExact_rel (entries : List Entry) (h : CaseVariant first.toList second.toList) :
    Option.Rel (SameMatch first second) (bestExact entries first) (bestExact entries second) := by
  refine best_rel (List.rel_filterMap (R := Eq) ?_ (List.forall₂_refl entries))
  rintro entry _ rfl
  exact match?_rel entry h

/-! ## Suggestions -/

theorem keywordSet_eq (h : CaseVariant first.toList second.toList) :
    Keyword.keywordSet first = Keyword.keywordSet second := by
  rw [Keyword.keywordSet, Keyword.keywordSet, Keyword.tokenize, Keyword.tokenize,
    Keyword.lowerWords, Keyword.lowerWords, h.lowercase_eq]

theorem suggest_eq (entries : List Entry) (h : CaseVariant first.toList second.toList)
    (limit : Nat) : suggest entries first limit = suggest entries second limit := by
  rw [suggest, suggest, keywordSet_eq h]

/-! ## The stages together -/

theorem eq_empty_iff (h : CaseVariant first.toList second.toList) : first = "" ↔ second = "" := by
  rw [← String.toList_eq_nil_iff, h.eq_nil_iff, String.toList_eq_nil_iff]

theorem SameMatch.within {part other : String} {found found' : ExactMatch}
    (hplace : SamePlace first.toList second.toList part.toList other.toList)
    (h : SameMatch part other found found') : SameMatch first second found found' :=
  ⟨h.1, fun name ↦ optionRel_imp (h.2 name) fun _ _ hvalue ↦ ⟨hvalue.1, hplace.trans hvalue.2⟩⟩

/-- The second stage is skipped for both requests or for none. -/
theorem rematch_rel (entries : List Entry) (h : CaseVariant first.toList second.toList) :
    Option.Rel (SameMatch first second) (rematch entries first) (rematch entries second) := by
  have hplace := Opener.samePlace_strip h
  have hvariant := h.of_samePlace hplace
  have hskip : (Opener.strip first = "" ∨ Opener.strip first = first) ↔
      (Opener.strip second = "" ∨ Opener.strip second = second) := by
    refine or_congr (eq_empty_iff hvariant) ?_
    rw [← String.toList_inj, h.eq_whole_iff hplace, String.toList_inj]
  rw [rematch, rematch]
  by_cases hfirst : Opener.strip first = "" ∨ Opener.strip first = first
  · rw [if_pos hfirst, if_pos (hskip.mp hfirst)]
    exact Option.Rel.none
  · rw [if_neg hfirst, if_neg (mt hskip.mpr hfirst)]
    exact optionRel_imp (bestExact_rel entries hvariant) fun _ _ hmatch ↦ hmatch.within hplace

/-- Two texts have the same outcome up to the case of what they say themselves: nothing, the same
suggestions, or a match of one alias in the same way, with captures from the same places and the
plan of that alias for them. -/
inductive SameOutcome (first second : String) : Resolution → Resolution → Prop where
  | noMatch : SameOutcome first second .noMatch .noMatch
  | suggestions (candidates : List Suggestion) :
    SameOutcome first second (.suggestions candidates) (.suggestions candidates)
  | matched (id : String) (kind : MatchKind) (a : Alias) {captures others : Captures}
    (h : SameParts first second captures others) :
    SameOutcome first second (.matched id kind captures (a.plan captures))
      (.matched id kind others (a.plan others))

namespace SameOutcome

variable {outcome other : Resolution}

theorem label_eq (h : SameOutcome first second outcome other) : outcome.label = other.label := by
  cases h <;> rfl

theorem kind?_eq (h : SameOutcome first second outcome other) : outcome.kind? = other.kind? := by
  cases h <;> rfl

theorem aliasIds_eq (h : SameOutcome first second outcome other) :
    outcome.aliasIds = other.aliasIds := by
  cases h <;> rfl

end SameOutcome

theorem SameMatch.sameOutcome {found other : ExactMatch} (h : SameMatch first second found other)
    (kind : MatchKind) :
    SameOutcome first second (resolutionOf kind found) (resolutionOf kind other) := by
  rw [resolutionOf, resolutionOf, h.1]
  exact SameOutcome.matched other.entry.id kind other.entry.definition h.2

theorem route_sameOutcome (entries : List Entry) (limit : Nat)
    (h : CaseVariant (trim first).toList (trim second).toList) :
    SameOutcome (trim first) (trim second) (route entries first limit)
      (route entries second limit) := by
  rw [route_eq, route_eq]
  by_cases hempty : trim first = ""
  · rw [if_pos hempty, if_pos ((eq_empty_iff h).mp hempty)]
    exact SameOutcome.noMatch
  rw [if_neg hempty, if_neg (mt (eq_empty_iff h).mpr hempty)]
  rcases optionRel_cases (bestExact_rel entries h) with
    ⟨hfirst, hsecond⟩ | ⟨found, other, hfirst, hsecond, hmatch⟩
  · rw [hfirst, hsecond, Option.map_none, Option.getD_none, Option.getD_none]
    rcases optionRel_cases (rematch_rel entries h) with
      ⟨hfirst, hsecond⟩ | ⟨found, other, hfirst, hsecond, hmatch⟩
    · rw [hfirst, hsecond, Option.map_none, Option.getD_none, Option.getD_none,
        suggest_eq entries h]
      by_cases hnone : suggest entries (trim second) limit = []
      · rw [if_pos hnone]
        exact SameOutcome.noMatch
      · rw [if_neg hnone]
        exact SameOutcome.suggestions _
    · rw [hfirst, hsecond]
      exact hmatch.sameOutcome .exactStripped
  · rw [hfirst, hsecond]
    exact hmatch.sameOutcome .exact

/-- **Blanks around a request and the case of its letters do not matter.** If two requests are the
same after trimming, up to the case of ASCII letters, then their outcomes are the same: both come to
nothing, both have the same suggestions with the same scores in the same order, or both match the
same alias in the same way, and each capture of one is the same part of the request as in the
other. -/
theorem resolve_sameOutcome (snapshot : Snapshot) (scope : Scope) (limit : Nat)
    {first second : String} (h : CaseVariant (trim first).toList (trim second).toList) :
    let outcome := snapshot.resolve first scope limit
    let other := snapshot.resolve second scope limit
    SameOutcome (trim first) (trim second) outcome other ∧ outcome.label = other.label ∧
      outcome.kind? = other.kind? ∧ outcome.aliasIds = other.aliasIds := by
  intro outcome other
  have hsame : SameOutcome (trim first) (trim second) outcome other :=
    route_sameOutcome (snapshot.eligible scope) limit h
  exact ⟨hsame, hsame.label_eq, hsame.kind?_eq, hsame.aliasIds_eq⟩

/-- An opener is dropped from both requests, and what is left is captured. -/
theorem resolve_sameOutcome_of_opener :
    let snapshot := Snapshot.build 1 [{ pattern := "add \x7btitle\x7d" }]
    let first := " Please ADD  Milk"
    let second := "pleASE add  mILK\n"
    CaseVariant (trim first).toList (trim second).toList ∧
    SameOutcome (trim first) (trim second) (snapshot.resolve first {} 3)
      (snapshot.resolve second {} 3) ∧
    (snapshot.resolve second {} 3).label = "exact_stripped" := by
  intro snapshot first second
  have hvariant : CaseVariant (trim first).toList (trim second).toList := by decide
  obtain ⟨hsame, hlabel, -⟩ := resolve_sameOutcome snapshot {} 3 hvariant
  have hfirst : (snapshot.resolve first {} 3).label = "exact_stripped" := by decide +kernel
  exact ⟨hvariant, hsame, hlabel ▸ hfirst⟩

end Routing

end Phrasebook
