import Phrasebook.Proofs.Snapshot.Index
import Phrasebook.Routing

/-!
# Which outcome a request has

A request passes through three stages, and the first that finds something decides. Here each stage
gets the condition under which it does, said of the entries and the wording alone: `HitsWhole`,
`HitsStripped` and `Resembles`. They exclude one another, and a request for which none of them holds
comes to nothing.

## What a match reports

The plan of a match has to come from the entry whose id is reported. Ids may repeat, so this is not
a matter of looking the id up again: `route_cases` hands out one entry for the id, the captures and
the plan together.
-/

namespace Phrasebook.Routing

/-! ## The conditions -/

/-- Some entry has the form of the whole text. -/
def Hits (entries : List Entry) (text : String) : Prop :=
  ∃ entry ∈ entries, entry.pattern.isMatch text = true

/-- The text as it stands has the form of some phrase. -/
def HitsWhole (entries : List Entry) (text : String) : Prop := text ≠ "" ∧ Hits entries text

/-- Only without its opener does the text have the form of some phrase. -/
def HitsStripped (entries : List Entry) (text : String) : Prop :=
  text ≠ "" ∧ ¬Hits entries text ∧
    Opener.strip text ≠ "" ∧ Opener.strip text ≠ text ∧ Hits entries (Opener.strip text)

/-- The text has the form of no phrase, with or without its opener, but some phrase shares a keyword
with it, and suggestions are wanted. -/
def Resembles (entries : List Entry) (text : String) (limit : Nat) : Prop :=
  text ≠ "" ∧ ¬HitsWhole entries text ∧ ¬HitsStripped entries text ∧ 0 < limit ∧
    ∃ entry ∈ entries, ∃ keyword ∈ entry.keywords, keyword ∈ Keyword.keywordSet text

/-! ## Exact matches -/

theorem isMatch_iff_captures? {pattern : Pattern} {text : String} :
    pattern.isMatch text = true ↔ ∃ captures, pattern.captures? text = some captures := by
  rw [Pattern.isMatch, Pattern.captures?, Option.isSome_iff_exists]
  constructor
  · rintro ⟨pieces, hpieces⟩
    exact ⟨_, by rw [hpieces, Option.map_some]⟩
  · rintro ⟨captures, hcaptures⟩
    obtain ⟨pieces, hpieces, -⟩ := Option.map_eq_some_iff.mp hcaptures
    exact ⟨pieces, hpieces⟩

theorem mem_matches_iff {entries : List Entry} {text : String} {found : ExactMatch} :
    found ∈ entries.filterMap (·.match? text) ↔
      found.entry ∈ entries ∧ found.entry.pattern.captures? text = some found.captures := by
  rw [List.mem_filterMap]
  constructor
  · rintro ⟨entry, hmem, hmatch⟩
    obtain ⟨captures, hcaptures, rfl⟩ := Option.map_eq_some_iff.mp hmatch
    exact ⟨hmem, hcaptures⟩
  · rintro ⟨hmem, hcaptures⟩
    exact ⟨found.entry, hmem, by rw [Entry.match?, hcaptures, Option.map_some]⟩

theorem matches_eq_nil_iff {entries : List Entry} {text : String} :
    entries.filterMap (·.match? text) = [] ↔ ¬Hits entries text := by
  rw [List.eq_nil_iff_forall_not_mem]
  constructor
  · rintro hnone ⟨entry, hmem, hmatch⟩
    obtain ⟨captures, hcaptures⟩ := isMatch_iff_captures?.mp hmatch
    exact hnone ⟨entry, captures⟩ (mem_matches_iff.mpr ⟨hmem, hcaptures⟩)
  · intro hmiss found hfound
    obtain ⟨hmem, hcaptures⟩ := mem_matches_iff.mp hfound
    exact hmiss ⟨found.entry, hmem, isMatch_iff_captures?.mpr ⟨found.captures, hcaptures⟩⟩

/-- Choosing never makes up a match. -/
theorem foldl_precedes_mem (rest : List ExactMatch) : ∀ first : ExactMatch,
    rest.foldl (fun chosen found ↦
      if found.entry.precedes chosen.entry then found else chosen) first ∈ first :: rest := by
  induction rest with
  | nil => intro first; exact List.mem_singleton.mpr rfl
  | cons next rest ih =>
    intro first
    rw [List.foldl_cons]
    by_cases h : next.entry.precedes first.entry = true
    · rw [if_pos h]
      exact List.mem_cons_of_mem first (ih next)
    · rw [if_neg h]
      rcases List.mem_cons.mp (ih first) with hfirst | hrest
      · rw [hfirst]
        exact List.mem_cons_self
      · exact List.mem_cons_of_mem first (List.mem_cons_of_mem next hrest)

theorem best_mem {found : ExactMatch} : ∀ {choices : List ExactMatch},
    best choices = some found → found ∈ choices
  | [], h => by cases h
  | first :: rest, h => by
    rw [best, Option.some_inj] at h
    rw [← h]
    exact foldl_precedes_mem rest first

theorem best_eq_none_iff {choices : List ExactMatch} : best choices = none ↔ choices = [] := by
  cases choices with
  | nil => simp [best]
  | cons first rest => simp [best]

theorem bestExact_eq_none_iff {entries : List Entry} {text : String} :
    bestExact entries text = none ↔ ¬Hits entries text := by
  rw [bestExact, best_eq_none_iff, matches_eq_nil_iff]

theorem of_bestExact_eq_some {entries : List Entry} {text : String} {found : ExactMatch}
    (h : bestExact entries text = some found) :
    Hits entries text ∧ found.entry ∈ entries ∧
      found.entry.pattern.captures? text = some found.captures := by
  obtain ⟨hmem, hcaptures⟩ := mem_matches_iff.mp (best_mem h)
  have hmatch := isMatch_iff_captures?.mpr ⟨found.captures, hcaptures⟩
  exact ⟨⟨found.entry, hmem, hmatch⟩, hmem, hcaptures⟩

/-! ## Suggestions -/

theorem overlapping_eq_nil_iff {R : Type} (arith : Arithmetic R) {entries : List Entry}
    {request : NameSet} :
    overlapping arith entries request = [] ↔
      ¬∃ entry ∈ entries, ∃ keyword ∈ entry.keywords, keyword ∈ request := by
  rw [overlapping, List.map_eq_nil_iff, List.filter_eq_nil_iff]
  constructor
  · rintro hdisjoint ⟨entry, hmem, hshared⟩
    refine hdisjoint entry hmem ?_
    rw [NameSet.disjoint_eq_false_iff.mpr hshared, Bool.not_false]
  · intro hnone entry hmem hoverlap
    rw [Bool.not_eq_true'] at hoverlap
    exact hnone ⟨entry, hmem, NameSet.disjoint_eq_false_iff.mp hoverlap⟩

theorem rank_eq_nil_iff {R : Type} (arith : Arithmetic R) {entries : List Entry}
    {request : NameSet} {limit : Nat} :
    rank arith entries request limit = [] ↔
      ¬(0 < limit ∧ ∃ entry ∈ entries, ∃ keyword ∈ entry.keywords, keyword ∈ request) := by
  rw [rank, List.take_eq_nil_iff, not_and_or, Nat.not_lt, Nat.le_zero,
    ← overlapping_eq_nil_iff arith]
  refine or_congr_right ?_
  rw [← List.length_eq_zero_iff, List.length_mergeSort, List.length_eq_zero_iff]

theorem suggest_eq_nil_iff {entries : List Entry} {text : String} {limit : Nat} :
    suggest entries text limit = [] ↔
      ¬(0 < limit ∧
        ∃ entry ∈ entries, ∃ keyword ∈ entry.keywords, keyword ∈ Keyword.keywordSet text) := by
  rw [suggest, List.map_eq_nil_iff, rank_eq_nil_iff]

/-! ## The stages together -/

/-- The second stage has its say only when the opener leaves something else to match. -/
def rematch (entries : List Entry) (text : String) : Option ExactMatch :=
  if Opener.strip text = "" ∨ Opener.strip text = text then none
  else bestExact entries (Opener.strip text)

/-- The stages in a row, each the fallback of the one before it. -/
theorem route_eq (entries : List Entry) (request : String) (limit : Nat) :
    route entries request limit =
      if Text.trim request = "" then .noMatch
      else
        ((bestExact entries (Text.trim request)).map (resolutionOf .exact)).getD <|
          ((rematch entries (Text.trim request)).map (resolutionOf .exactStripped)).getD <|
            if suggest entries (Text.trim request) limit = [] then .noMatch
            else .suggestions (suggest entries (Text.trim request) limit) := by
  by_cases htext : Text.trim request = ""
  · rw [if_pos htext, route, htext]
    rfl
  have hnonempty : (Text.trim request).isEmpty = false := by simpa using htext
  rw [if_neg htext]
  -- a stage is reached only when those before it found nothing
  cases hbest : bestExact entries (Text.trim request) with
  | some found => simp only [route, hnonempty, hbest, Bool.false_eq_true, if_false, Option.map_some,
      Option.getD_some]
  | none =>
    rw [Option.map_none, Option.getD_none]
    cases hagain : rematch entries (Text.trim request) with
    | some found =>
      rw [rematch] at hagain
      simp only [route, hnonempty, hbest, Bool.false_eq_true, if_false, Bool.or_eq_true,
        String.isEmpty_iff, beq_iff_eq, hagain, Option.map_some, Option.getD_some]
    | none =>
      rw [rematch] at hagain
      simp only [route, hnonempty, hbest, Bool.false_eq_true, if_false, Bool.or_eq_true,
        String.isEmpty_iff, beq_iff_eq, hagain, List.isEmpty_iff, Option.map_none, Option.getD_none]

theorem of_rematch_eq_some {entries : List Entry} {text : String} {found : ExactMatch}
    (h : rematch entries text = some found) :
    Opener.strip text ≠ "" ∧ Opener.strip text ≠ text ∧
      bestExact entries (Opener.strip text) = some found := by
  rw [rematch] at h
  by_cases hskip : Opener.strip text = "" ∨ Opener.strip text = text
  · rw [if_pos hskip] at h
    cases h
  · rw [if_neg hskip] at h
    rw [not_or] at hskip
    exact ⟨hskip.1, hskip.2, h⟩

theorem not_hitsStripped_of_rematch_eq_none {entries : List Entry} {text : String}
    (h : rematch entries text = none) : ¬HitsStripped entries text := by
  rintro ⟨-, -, hne, hother, hhits⟩
  rw [rematch, if_neg (not_or.mpr ⟨hne, hother⟩), bestExact_eq_none_iff] at h
  exact h hhits

/-- What each of the four outcomes goes with. -/
theorem route_cases (entries : List Entry) (request : String) (limit : Nat) :
    (HitsWhole entries (Text.trim request) ∧ ∃ found : ExactMatch, found.entry ∈ entries ∧
      found.entry.pattern.captures? (Text.trim request) = some found.captures ∧
      route entries request limit = resolutionOf .exact found) ∨
    (HitsStripped entries (Text.trim request) ∧ ∃ found : ExactMatch, found.entry ∈ entries ∧
      found.entry.pattern.captures? (Opener.strip (Text.trim request)) = some found.captures ∧
      route entries request limit = resolutionOf .exactStripped found) ∨
    (Resembles entries (Text.trim request) limit ∧ ∃ candidates, candidates ≠ [] ∧
      route entries request limit = .suggestions candidates) ∨
    (¬HitsWhole entries (Text.trim request) ∧ ¬HitsStripped entries (Text.trim request) ∧
      ¬Resembles entries (Text.trim request) limit ∧ route entries request limit = .noMatch) := by
  rw [route_eq]
  by_cases htext : Text.trim request = ""
  · exact Or.inr (Or.inr (Or.inr ⟨fun h ↦ h.1 htext, fun h ↦ h.1 htext, fun h ↦ h.1 htext,
      if_pos htext⟩))
  rw [if_neg htext]
  cases hbest : bestExact entries (Text.trim request) with
  | some found =>
    obtain ⟨hhits, hmem, hcaptures⟩ := of_bestExact_eq_some hbest
    exact Or.inl ⟨⟨htext, hhits⟩, found, hmem, hcaptures, rfl⟩
  | none =>
    have hmiss : ¬Hits entries (Text.trim request) := bestExact_eq_none_iff.mp hbest
    rw [Option.map_none, Option.getD_none]
    refine Or.inr ?_
    cases hagain : rematch entries (Text.trim request) with
    | some found =>
      obtain ⟨hne, hother, hfound⟩ := of_rematch_eq_some hagain
      obtain ⟨hhits, hmem, hcaptures⟩ := of_bestExact_eq_some hfound
      exact Or.inl ⟨⟨htext, hmiss, hne, hother, hhits⟩, found, hmem, hcaptures, rfl⟩
    | none =>
      have hwhole : ¬HitsWhole entries (Text.trim request) := fun h ↦ hmiss h.2
      have hstripped := not_hitsStripped_of_rematch_eq_none hagain
      rw [Option.map_none, Option.getD_none]
      refine Or.inr ?_
      by_cases hnil : suggest entries (Text.trim request) limit = []
      · exact Or.inr ⟨hwhole, hstripped, fun h ↦ suggest_eq_nil_iff.mp hnil h.2.2.2, if_pos hnil⟩
      · have hshared := not_not.mp (mt suggest_eq_nil_iff.mpr hnil)
        exact Or.inl ⟨⟨htext, hwhole, hstripped, hshared⟩, _, hnil, if_neg hnil⟩

/-! ## Reading the condition off the outcome -/

theorem resolve_build (version : UInt64) (aliases : List Alias) (scope : Scope) (request : String)
    (limit : Nat) :
    (Snapshot.build version aliases).resolve request scope limit =
      route ((Snapshot.build version aliases).entries.filter fun entry ↦
        entry.definition.isEligible scope) request limit := by
  rw [Snapshot.resolve, (Snapshot.indexed_build version aliases).eligible_eq scope]

/-- The entry of a match answers for everything that is reported about it. -/
theorem exists_entry_of_mem {entries : List Entry} {text : String} {found : ExactMatch}
    (hmem : found.entry ∈ entries)
    (hcaptures : found.entry.pattern.captures? text = some found.captures) :
    ∃ entry ∈ entries, found.entry.id = entry.id ∧
      entry.pattern.captures? text = some found.captures ∧
      found.entry.definition.plan found.captures = entry.definition.plan found.captures :=
  ⟨found.entry, hmem, rfl, hcaptures, rfl⟩

/-- **The outcome of a request.** For the snapshot of any aliases, the four outcomes go with the
four conditions, no outcome is a fuzzy match or an empty list of suggestions, and a match takes its
id, its captures and its plan from one entry. -/
theorem resolve_build_outcome (version : UInt64) (aliases : List Alias) (scope : Scope)
    (request : String) (limit : Nat) :
    let entries := (Snapshot.build version aliases).entries.filter fun entry ↦
      entry.definition.isEligible scope
    let text := Text.trim request
    let result := (Snapshot.build version aliases).resolve request scope limit
    ((∃ id captures plan, result = .matched id .exact captures plan) ↔ HitsWhole entries text) ∧
    ((∃ id captures plan, result = .matched id .exactStripped captures plan) ↔
      HitsStripped entries text) ∧
    ((∃ candidates, result = .suggestions candidates) ↔ Resembles entries text limit) ∧
    (result = .noMatch ↔ ¬HitsWhole entries text ∧ ¬HitsStripped entries text ∧
      ¬Resembles entries text limit) ∧
    (∀ id captures plan, result ≠ .matched id .fuzzy captures plan) ∧
    result ≠ .suggestions [] ∧
    (∀ id captures plan, result = .matched id .exact captures plan →
      ∃ entry ∈ entries, id = entry.id ∧ entry.pattern.captures? text = some captures ∧
        plan = entry.definition.plan captures) ∧
    (∀ id captures plan, result = .matched id .exactStripped captures plan →
      ∃ entry ∈ entries, id = entry.id ∧
        entry.pattern.captures? (Opener.strip text) = some captures ∧
        plan = entry.definition.plan captures) := by
  intro entries text result
  have hresult : result = route entries request limit := resolve_build version aliases scope
    request limit
  clear_value result
  subst hresult
  -- the conditions exclude one another, so the one that holds settles every part
  rcases route_cases entries request limit with
    ⟨hwhole, found, hmem, hcaptures, hroute⟩ | ⟨hstripped, found, hmem, hcaptures, hroute⟩ |
    ⟨hresembles, candidates, hne, hroute⟩ | ⟨hwhole, hstripped, hresembles, hroute⟩
  · have hstripped : ¬HitsStripped entries text := fun h ↦ h.2.1 hwhole.2
    have hresembles : ¬Resembles entries text limit := fun h ↦ h.2.1 hwhole
    have hentry := exists_entry_of_mem hmem hcaptures
    simpa [hroute, resolutionOf, hstripped, hresembles] using And.intro hwhole hentry
  · have hwhole : ¬HitsWhole entries text := fun h ↦ hstripped.2.1 h.2
    have hresembles : ¬Resembles entries text limit := fun h ↦ h.2.2.1 hstripped
    have hentry := exists_entry_of_mem hmem hcaptures
    simpa [hroute, resolutionOf, hwhole, hresembles] using And.intro hstripped hentry
  · have hwhole : ¬HitsWhole entries text := hresembles.2.1
    have hstripped : ¬HitsStripped entries text := hresembles.2.2.1
    have htext : Resembles entries text limit := hresembles
    simp [hroute, hwhole, hstripped, htext, hne]
  · simp [hroute, hwhole, hstripped, hresembles, entries, text]

end Phrasebook.Routing
