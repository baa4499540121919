import Phrasebook.Proofs.Pattern.Case
import Phrasebook.Proofs.Routing.Disabled
import Phrasebook.Proofs.Routing.Doubles
import Phrasebook.Proofs.Routing.Precedence
import Phrasebook.Proofs.Snapshot.Admission

/-!
# The order of definition

Aliases are defined in some order, and the order is used: of two exact matches that are equal in
everything else the later definition wins. This is its only use. When no phrase occurs twice in a
layer and no key occurs twice at all, aliases in another order make a snapshot that answers every
request in the same way, except that among tied aliases another one may win.

Nothing inside the two snapshots is the same. The entries have other places, they are counted and
compared in another order, and the layers list other numbers. So each stage is described by what
does not change. The exact stages come down to the `contenders`, the aliases that have the form of
the text: there is a winner as soon as there is a contender, and it is of the best grade among them
(`IsTopContender`). The suggestions are a list sorted by a linear order, which is determined by its
members.
-/

namespace Phrasebook

/-! ## Entries in another order -/

/-- When no phrase occurs twice, only faults keep aliases out of a snapshot. -/
theorem admitted_eq_filter {aliases : List Alias}
    (h : aliases.Pairwise fun a b ↦ ¬a.SamePhrase b) :
    admitted aliases = aliases.filter fun a ↦ a.IsSound := by
  induction aliases using List.reverseRecOn with
  | nil => rfl
  | append_singleton aliases a ih =>
    obtain ⟨hrest, -, hlast⟩ := List.pairwise_append.mp h
    have hfree : ¬Occurrence.IsTaken ⟨aliases, a⟩ := by
      rintro ⟨b, hb, -, hsame⟩
      exact hlast b hb a List.mem_cons_self hsame
    have hadmitted : Occurrence.IsAdmitted ⟨aliases, a⟩ ↔ a.IsSound := and_iff_left hfree
    rw [admitted_append_singleton, ih hrest, List.filter_append]
    by_cases hsound : a.IsSound
    · rw [if_pos (hadmitted.mpr hsound)]
      simp [hsound]
    · rw [if_neg (mt hadmitted.mp hsound)]
      simp [hsound]

theorem admitted_sublist (aliases : List Alias) : (admitted aliases).Sublist aliases := by
  conv_rhs => rw [← map_definition_occurrences aliases]
  exact List.filter_sublist.map _

theorem Alias.pairwise_not_samePhrase_perm {aliases others : List Alias}
    (hperm : aliases.Perm others) (h : aliases.Pairwise fun a b ↦ ¬a.SamePhrase b) :
    others.Pairwise fun a b ↦ ¬a.SamePhrase b :=
  hperm.pairwise h fun hab hba ↦ hab ⟨hba.1.symm, hba.2.symm⟩

/-- The entry of an alias without a fault, as if it stood in the first place. -/
def Alias.entry? (a : Alias) : Option Entry :=
  a.check.1.map fun pattern ↦ ⟨a.key, a, pattern, Keyword.keywordSet pattern.literal, 0⟩

namespace Snapshot

variable {version other : UInt64} {aliases others : List Alias} {scope : Scope}

theorem entry?_of_mem_build {entry : Entry} (h : entry ∈ (build version aliases).entries) :
    entry.definition.entry? = some entry.unplaced := by
  have hmade : entry.IsMade := (records_build version aliases).made entry h
  rw [Alias.entry?, check_of_mem_build h, Option.map_some, ← hmade.id, ← hmade.keywords,
    Entry.unplaced]

/-- The entries that take part are those of the aliases that do. -/
theorem map_unplaced_eligible (version : UInt64) (aliases : List Alias) (scope : Scope) :
    ((build version aliases).eligible scope).map Entry.unplaced =
      ((admitted aliases).filter (·.isEligible scope)).filterMap Alias.entry? := by
  have hrecords : Records aliases (build version aliases) := records_build version aliases
  rw [← hrecords.map_definition_eligible, List.filterMap_map, ← List.filterMap_eq_map]
  refine (List.filterMap_congr fun entry hentry ↦ ?_).symm
  exact entry?_of_mem_build (hrecords.indexed.mem_eligible_iff.mp hentry).1

theorem eligible_perm (version other : UInt64) (scope : Scope) (hperm : aliases.Perm others)
    (hphrases : aliases.Pairwise fun a b ↦ ¬a.SamePhrase b) :
    (((build version aliases).eligible scope).map Entry.unplaced).Perm
      (((build other others).eligible scope).map Entry.unplaced) := by
  rw [map_unplaced_eligible, map_unplaced_eligible, admitted_eq_filter hphrases,
    admitted_eq_filter (Alias.pairwise_not_samePhrase_perm hperm hphrases)]
  exact ((hperm.filter _).filter _).filterMap _

theorem map_id_eligible_sublist (version : UInt64) (aliases : List Alias) (scope : Scope) :
    (((build version aliases).eligible scope).map (·.id)).Sublist (aliases.map Alias.key) := by
  have hrecords : Records aliases (build version aliases) := records_build version aliases
  rw [hrecords.indexed.eligible_eq]
  refine (List.filter_sublist.map _).trans ?_
  rw [hrecords.map_id]
  exact (admitted_sublist aliases).map _

end Snapshot

/-! ## Contenders -/

/-- What the alias is compared by, before the place of its definition, when it matches: the
priority, and whether it is public. -/
def Alias.grade (a : Alias) : ℤ ×ₗ Bool := toLex (a.priority.toInt, a.isPublic)

/-- Only the order of definition can decide between the two aliases. -/
def Alias.TiesWith (a b : Alias) : Prop := a.priority = b.priority ∧ a.isPublic = b.isPublic

instance (a b : Alias) : Decidable (a.TiesWith b) := inferInstanceAs (Decidable (_ ∧ _))

theorem Alias.tiesWith_of_grade_eq {a b : Alias} (h : a.grade = b.grade) : a.TiesWith b :=
  ⟨Int32.toInt_inj.mp (congrArg (fun grade : ℤ ×ₗ Bool ↦ (ofLex grade).1) h),
    congrArg (fun grade : ℤ ×ₗ Bool ↦ (ofLex grade).2) h⟩

theorem Entry.grade_le_of_rank_le {a b : Entry} (h : a.rank ≤ b.rank) :
    a.definition.grade ≤ b.definition.grade := by
  rw [Entry.rank, Entry.rank, Prod.Lex.toLex_le_toLex, Prod.Lex.toLex_le_toLex] at h
  rw [Alias.grade, Alias.grade, Prod.Lex.toLex_le_toLex]
  rcases h with hpriority | ⟨hpriority, hlt | ⟨hpublic, -⟩⟩
  · exact Or.inl hpriority
  · exact Or.inr ⟨hpriority, hlt.le⟩
  · exact Or.inr ⟨hpriority, hpublic.le⟩

/-- What the placeholders of the alias take of a text that has the form of its phrase. -/
def Alias.captures? (a : Alias) (text : String) : Option Captures :=
  a.check.1.bind (·.captures? text)

namespace Routing

/-- The aliases that take part in answering and have the form of a text. -/
def contenders (aliases : List Alias) (scope : Scope) (text : String) : List Alias :=
  aliases.filter fun a ↦ a.isEligible scope && (a.captures? text).isSome

/-- No two aliases that have the form of a text tie with each other. -/
def Untied (aliases : List Alias) (scope : Scope) (text : String) : Prop :=
  (contenders aliases scope text).Pairwise fun a b ↦ ¬a.TiesWith b

instance (aliases : List Alias) (scope : Scope) (text : String) :
    Decidable (Untied aliases scope text) :=
  inferInstanceAs (Decidable (List.Pairwise _ _))

theorem Untied.eq_of_tiesWith {aliases : List Alias} {scope : Scope} {text : String}
    (h : Untied aliases scope text) {a b : Alias} (ha : a ∈ contenders aliases scope text)
    (hb : b ∈ contenders aliases scope text) (hties : a.TiesWith b) : a = b := by
  have hsymm : Std.Symm fun a b : Alias ↦ ¬a.TiesWith b := by
    constructor
    intro a b hab hba
    exact hab ⟨hba.1.symm, hba.2.symm⟩
  by_contra hne
  exact h.forall ha hb hne hties

/-- The match is one of the best among the contenders. -/
structure IsTopContender (aliases : List Alias) (scope : Scope) (text : String)
    (found : ExactMatch) : Prop where
  id : found.entry.id = found.entry.definition.key
  mem : found.entry.definition ∈ contenders aliases scope text
  captures : found.entry.definition.captures? text = some found.captures
  best : ∀ a ∈ contenders aliases scope text, found.entry.definition.grade ≤ a.grade

section

variable {version : UInt64} {aliases others : List Alias} {scope : Scope} {text : String}

/-- An entry that matches is that of a contender. -/
theorem contender_of_mem_eligible {entry : Entry} {captures : Captures}
    (hentry : entry ∈ (Snapshot.build version aliases).eligible scope)
    (h : entry.pattern.captures? text = some captures) :
    entry.definition ∈ contenders aliases scope text ∧
      entry.definition.captures? text = some captures := by
  have hrecords := Snapshot.records_build version aliases
  obtain ⟨hmem, heligible⟩ := hrecords.indexed.mem_eligible_iff.mp hentry
  have hcaptures : entry.definition.captures? text = some captures := by
    rw [Alias.captures?, Snapshot.check_of_mem_build hmem, Option.bind_some, h]
  have hadmitted : entry.definition ∈ admitted aliases :=
    hrecords.definitions ▸ List.mem_map_of_mem hmem
  refine ⟨List.mem_filter.mpr ⟨(admitted_sublist aliases).subset hadmitted, ?_⟩, hcaptures⟩
  rw [heligible, hcaptures]
  rfl

/-- A contender has an entry, which matches. -/
theorem exists_mem_eligible_of_contender
    (hphrases : aliases.Pairwise fun a b ↦ ¬a.SamePhrase b) {a : Alias}
    (ha : a ∈ contenders aliases scope text) :
    ∃ entry ∈ (Snapshot.build version aliases).eligible scope, entry.definition = a ∧
      entry.pattern.isMatch text = true := by
  have hrecords := Snapshot.records_build version aliases
  obtain ⟨halias, hboth⟩ := List.mem_filter.mp ha
  rw [Bool.and_eq_true, Option.isSome_iff_exists] at hboth
  obtain ⟨heligible, captures, hcaptures⟩ := hboth
  obtain ⟨pattern, hcheck, hpattern⟩ := Option.bind_eq_some_iff.mp hcaptures
  have hsound : a.IsSound := by rw [Alias.IsSound, hcheck, Option.isSome_some]
  have hadmitted : a ∈ admitted aliases := by
    rw [admitted_eq_filter hphrases]
    exact List.mem_filter.mpr ⟨halias, decide_eq_true hsound⟩
  rw [← hrecords.definitions] at hadmitted
  obtain ⟨entry, hentry, rfl⟩ := List.mem_map.mp hadmitted
  have hsame : entry.pattern = pattern :=
    Option.some_inj.mp ((Snapshot.check_of_mem_build hentry).symm.trans hcheck)
  refine ⟨entry, hrecords.indexed.mem_eligible_iff.mpr ⟨hentry, heligible⟩, rfl, ?_⟩
  exact isMatch_iff_captures?.mpr ⟨captures, hsame ▸ hpattern⟩

theorem isTopContender_of_bestExact (hphrases : aliases.Pairwise fun a b ↦ ¬a.SamePhrase b)
    {found : ExactMatch}
    (h : bestExact ((Snapshot.build version aliases).eligible scope) text = some found) :
    IsTopContender aliases scope text found := by
  have hrecords := Snapshot.records_build version aliases
  obtain ⟨-, hmem, hmatch⟩ := of_bestExact_eq_some h
  obtain ⟨hcontender, hcaptures⟩ := contender_of_mem_eligible hmem hmatch
  refine ⟨(hrecords.made _ (hrecords.indexed.mem_eligible_iff.mp hmem).1).id, hcontender,
    hcaptures, fun a ha ↦ ?_⟩
  obtain ⟨entry, hentry, rfl, hother⟩ := exists_mem_eligible_of_contender hphrases ha
  obtain ⟨captures, hothers⟩ := isMatch_iff_captures?.mp hother
  apply Entry.grade_le_of_rank_le
  exact best_le h ⟨entry, captures⟩ (mem_matches_iff.mpr ⟨hentry, hothers⟩)

theorem bestExact_eq_none_iff_contenders
    (hphrases : aliases.Pairwise fun a b ↦ ¬a.SamePhrase b) :
    bestExact ((Snapshot.build version aliases).eligible scope) text = none ↔
      contenders aliases scope text = [] := by
  rw [bestExact_eq_none_iff, List.eq_nil_iff_forall_not_mem]
  constructor
  · intro hmiss a ha
    obtain ⟨entry, hentry, -, hmatch⟩ := exists_mem_eligible_of_contender hphrases ha
    exact hmiss ⟨entry, hentry, hmatch⟩
  · rintro hnone ⟨entry, hentry, hmatch⟩
    obtain ⟨captures, hcaptures⟩ := isMatch_iff_captures?.mp hmatch
    exact hnone _ (contender_of_mem_eligible hentry hcaptures).1

end

end Routing

/-! ## Outcomes that differ by ties -/

/-- The wording of a request that a match of the kind goes by. -/
def MatchKind.wording (kind : MatchKind) (text : String) : String :=
  match kind with
  | exact | fuzzy => text
  | exactStripped => Opener.strip text

namespace Routing

/-- Two outcomes of one request that differ by ties only: nothing, the same suggestions, or matches
of one kind for tied aliases, each with its captures and its plan. If no two contenders tie, then it
is one alias, with the same captures. -/
inductive SameUpToTies (aliases : List Alias) (scope : Scope) (text : String) :
    Resolution → Resolution → Prop where
  | noMatch : SameUpToTies aliases scope text .noMatch .noMatch
  | suggestions (candidates : List Suggestion) :
    SameUpToTies aliases scope text (.suggestions candidates) (.suggestions candidates)
  | matched (kind : MatchKind) {a b : Alias} {captures others : Captures}
    (ha : a ∈ contenders aliases scope (kind.wording text))
    (hb : b ∈ contenders aliases scope (kind.wording text))
    (hcaptures : a.captures? (kind.wording text) = some captures)
    (hothers : b.captures? (kind.wording text) = some others)
    (hties : a.TiesWith b)
    (huntied : Untied aliases scope (kind.wording text) → a = b ∧ captures = others) :
    SameUpToTies aliases scope text (.matched a.key kind captures (a.plan captures))
      (.matched b.key kind others (b.plan others))

variable {aliases others : List Alias} {scope : Scope} {text : String}

namespace SameUpToTies

variable {outcome outcome' : Resolution}

theorem label_eq (h : SameUpToTies aliases scope text outcome outcome') :
    outcome.label = outcome'.label := by
  cases h <;> rfl

theorem kind?_eq (h : SameUpToTies aliases scope text outcome outcome') :
    outcome.kind? = outcome'.kind? := by
  cases h <;> rfl

/-- Without ties nothing at all differs. -/
theorem eq_of_untied (h : SameUpToTies aliases scope text outcome outcome')
    (huntied : ∀ kind, outcome.kind? = some kind → Untied aliases scope (kind.wording text)) :
    outcome = outcome' := by
  rcases h with _ | _ | ⟨kind, ha, hb, hcaptures, hothers, hties, hsame⟩
  · rfl
  · rfl
  · obtain ⟨rfl, rfl⟩ := hsame (huntied kind rfl)
    rfl

end SameUpToTies

/-- Two winners among the same contenders tie with each other. -/
theorem IsTopContender.sameUpToTies {kind : MatchKind} {found found' : ExactMatch}
    (h : IsTopContender aliases scope (kind.wording text) found)
    (h' : IsTopContender others scope (kind.wording text) found') (hperm : aliases.Perm others) :
    SameUpToTies aliases scope text (resolutionOf kind found) (resolutionOf kind found') := by
  have hcontenders : (contenders aliases scope (kind.wording text)).Perm
      (contenders others scope (kind.wording text)) := hperm.filter _
  have hmem := hcontenders.mem_iff.mpr h'.mem
  have hties := Alias.tiesWith_of_grade_eq
    (le_antisymm (h.best _ hmem) (h'.best _ (hcontenders.mem_iff.mp h.mem)))
  rw [resolutionOf, resolutionOf, h.id, h'.id]
  refine SameUpToTies.matched kind h.mem hmem h.captures h'.captures hties fun huntied ↦ ?_
  have hsame := huntied.eq_of_tiesWith h.mem hmem hties
  have hcaptures := h'.captures
  rw [← hsame, h.captures] at hcaptures
  exact ⟨hsame, Option.some_inj.mp hcaptures⟩

/-- An exact stage finds something for both orders or for neither. -/
theorem bestExact_sameUpToTies (version other : UInt64) (kind : MatchKind)
    (hperm : aliases.Perm others) (hphrases : aliases.Pairwise fun a b ↦ ¬a.SamePhrase b) :
    Option.Rel (SameUpToTies aliases scope text)
      ((bestExact ((Snapshot.build version aliases).eligible scope) (kind.wording text)).map
        (resolutionOf kind))
      ((bestExact ((Snapshot.build other others).eligible scope) (kind.wording text)).map
        (resolutionOf kind)) := by
  have hothers := Alias.pairwise_not_samePhrase_perm hperm hphrases
  have hcontenders : (contenders aliases scope (kind.wording text)).Perm
      (contenders others scope (kind.wording text)) := hperm.filter _
  by_cases hnone : contenders aliases scope (kind.wording text) = []
  · have hnone' : contenders others scope (kind.wording text) = [] :=
      (hnone ▸ hcontenders).nil_eq.symm
    rw [(bestExact_eq_none_iff_contenders hphrases).mpr hnone,
      (bestExact_eq_none_iff_contenders hothers).mpr hnone']
    exact Option.Rel.none
  · have hnone' : contenders others scope (kind.wording text) ≠ [] :=
      fun h ↦ hnone (h ▸ hcontenders).eq_nil
    have hsome : bestExact ((Snapshot.build version aliases).eligible scope)
        (kind.wording text) ≠ none := mt (bestExact_eq_none_iff_contenders hphrases).mp hnone
    have hsome' : bestExact ((Snapshot.build other others).eligible scope)
        (kind.wording text) ≠ none := mt (bestExact_eq_none_iff_contenders hothers).mp hnone'
    obtain ⟨found, hfound⟩ := Option.ne_none_iff_exists'.mp hsome
    obtain ⟨found', hfound'⟩ := Option.ne_none_iff_exists'.mp hsome'
    rw [hfound, hfound']
    exact Option.Rel.some ((isTopContender_of_bestExact hphrases hfound).sameUpToTies
      (isTopContender_of_bestExact hothers hfound') hperm)

theorem rematch_sameUpToTies (version other : UInt64) (hperm : aliases.Perm others)
    (hphrases : aliases.Pairwise fun a b ↦ ¬a.SamePhrase b) :
    Option.Rel (SameUpToTies aliases scope text)
      ((rematch ((Snapshot.build version aliases).eligible scope) text).map
        (resolutionOf .exactStripped))
      ((rematch ((Snapshot.build other others).eligible scope) text).map
        (resolutionOf .exactStripped)) := by
  rw [rematch, rematch]
  by_cases hskip : Opener.strip text = "" ∨ Opener.strip text = text
  · rw [if_pos hskip, if_pos hskip]
    exact Option.Rel.none
  · rw [if_neg hskip, if_neg hskip]
    exact bestExact_sameUpToTies version other .exactStripped hperm hphrases

/-- Stage by stage the two orders find the same, up to ties. -/
theorem routeWith_sameUpToTies {log : Float → Float} (hlog : LogBounded log)
    (version other : UInt64) (hperm : aliases.Perm others)
    (hphrases : aliases.Pairwise fun a b ↦ ¬a.SamePhrase b)
    (hkeys : (aliases.map Alias.key).Nodup) (hsize : aliases.length < 2 ^ 64) (request : String)
    (limit : Nat) :
    SameUpToTies aliases scope (Text.trim request)
      (routeWith log ((Snapshot.build version aliases).eligible scope) request limit)
      (routeWith log ((Snapshot.build other others).eligible scope) request limit) := by
  have hids := Snapshot.map_id_eligible_sublist version aliases scope
  have hfew : ((Snapshot.build version aliases).eligible scope).length < 2 ^ 64 := by
    have hlength := hids.length_le
    rw [List.length_map, List.length_map] at hlength
    exact hlength.trans_lt hsize
  have hsuggest : suggestWith log ((Snapshot.build version aliases).eligible scope)
      (Text.trim request) limit =
      suggestWith log ((Snapshot.build other others).eligible scope) (Text.trim request) limit :=
    suggestWith_perm hlog (Snapshot.eligible_perm version other scope hperm hphrases)
      (hkeys.sublist hids) hfew _ limit
  rw [routeWith, routeWith]
  by_cases hempty : Text.trim request = ""
  · rw [if_pos hempty, if_pos hempty]
    exact SameUpToTies.noMatch
  rw [if_neg hempty, if_neg hempty]
  rcases optionRel_cases (bestExact_sameUpToTies version other .exact hperm hphrases) with
    ⟨hfirst, hsecond⟩ | ⟨outcome, outcome', hfirst, hsecond, hsame⟩
  · rw [MatchKind.wording] at hfirst hsecond
    rw [hfirst, hsecond, Option.getD_none, Option.getD_none]
    rcases optionRel_cases (rematch_sameUpToTies version other hperm hphrases) with
      ⟨hfirst, hsecond⟩ | ⟨outcome, outcome', hfirst, hsecond, hsame⟩
    · rw [hfirst, hsecond, Option.getD_none, Option.getD_none, hsuggest]
      split
      · exact SameUpToTies.noMatch
      · exact SameUpToTies.suggestions _
    · rw [hfirst, hsecond]
      exact hsame
  · rw [MatchKind.wording] at hfirst hsecond
    rw [hfirst, hsecond]
    exact hsame

end Routing

namespace Snapshot

open Routing

/-- **The order of definition decides between exact ties and nothing else.** Take aliases none of
which share a phrase and a layer, or a key, and the same aliases in another order; a list that a
computer holds has fewer than 2 to the 64 of them. Then every request comes to the same under both
orders, up to ties: nothing, the same suggestions with the same scores in the same order, or matches
of one kind for aliases of the same priority and publicness. If no two of the aliases that have the
form of the text at that stage tie, then the outcomes are the same altogether.

The logarithm may be any that is bounded as logarithms are. The last part says which of them the
program takes. -/
theorem resolveWith_perm {log : Float → Float} (hlog : LogBounded log)
    {aliases others : List Alias} (hperm : aliases.Perm others)
    (hphrases : aliases.Pairwise fun a b ↦ ¬a.SamePhrase b)
    (hkeys : (aliases.map Alias.key).Nodup) (hsize : aliases.length < 2 ^ 64)
    (version version' : UInt64) (scope : Scope) (request : String) (limit : Nat) :
    let outcome := (build version aliases).resolveWith log request scope limit
    let outcome' := (build version' others).resolveWith log request scope limit
    let text := Text.trim request
    SameUpToTies aliases scope text outcome outcome' ∧ outcome.label = outcome'.label ∧
      outcome.kind? = outcome'.kind? ∧
      ((∀ kind, outcome.kind? = some kind → Untied aliases scope (kind.wording text)) →
        outcome = outcome') ∧
      (log = Float.log → outcome = (build version aliases).resolve request scope limit ∧
        outcome' = (build version' others).resolve request scope limit) := by
  intro outcome outcome' text
  have hsame : SameUpToTies aliases scope text outcome outcome' :=
    routeWith_sameUpToTies hlog version version' hperm hphrases hkeys hsize request limit
  refine ⟨hsame, hsame.label_eq, hsame.kind?_eq, hsame.eq_of_untied, ?_⟩
  rintro rfl
  exact ⟨resolveWith_log _ request scope limit, resolveWith_log _ request scope limit⟩

/-- Two phrases have the form of one request, and the later one wins in either order. Another
request has two suggestions, which are the same in either order. -/
theorem resolveWith_perm_of_reversed :
    let log : Float → Float := fun x ↦ if x = 5 then 1.6094379124341003 else 0
    let aliases : List Alias := [{ pattern := "add \x7btitle\x7d" },
      { pattern := "\x7bwish\x7d milk" }, { pattern := "my notes" }, { pattern := "my tasks" }]
    let first := build 1 aliases
    let second := build 2 aliases.reverse
    (LogBounded log ∧ aliases.Perm aliases.reverse ∧
      aliases.Pairwise (fun a b ↦ ¬a.SamePhrase b) ∧ (aliases.map Alias.key).Nodup ∧
      aliases.length < 2 ^ 64) ∧
    SameUpToTies aliases {} "add milk" (first.resolveWith log "add milk" {} 3)
      (second.resolveWith log "add milk" {} 3) ∧
    (first.resolveWith log "add milk" {} 3).aliasIds = ["public:\x7bwish\x7d milk"] ∧
    (second.resolveWith log "add milk" {} 3).aliasIds = ["public:add \x7btitle\x7d"] ∧
    first.resolveWith log "tasks and notes" {} 3 = second.resolveWith log "tasks and notes" {} 3 ∧
    (first.resolveWith log "tasks and notes" {} 3).label = "suggestions" := by
  intro log aliases first second
  have hlog : LogBounded log := by
    intro x _ _
    show 0 ≤ (if x = 5 then 1.6094379124341003 else 0 : Float) ∧
      (if x = 5 then 1.6094379124341003 else 0 : Float) ≤ 1024
    split <;> decide +kernel
  have hperm : aliases.Perm aliases.reverse := (List.reverse_perm aliases).symm
  have hphrases : aliases.Pairwise fun a b ↦ ¬a.SamePhrase b := by decide +kernel
  have hkeys : (aliases.map Alias.key).Nodup := by decide +kernel
  have hsize : aliases.length < 2 ^ 64 := by decide
  have hfirst := (indexed_build 1 aliases).eligible_eq {}
  have hsecond := (indexed_build 2 aliases.reverse).eligible_eq {}
  obtain ⟨hmatch, -⟩ := resolveWith_perm hlog hperm hphrases hkeys hsize 1 2 {} "add milk" 3
  obtain ⟨-, -, -, hsuggest, -⟩ :=
    resolveWith_perm hlog hperm hphrases hkeys hsize 1 2 {} "tasks and notes" 3
  refine ⟨⟨hlog, hperm, hphrases, hkeys, hsize⟩, hmatch, ?_, ?_, hsuggest ?_, ?_⟩
  · rw [resolveWith, hfirst]
    decide +kernel
  · rw [resolveWith, hsecond]
    decide +kernel
  · intro kind _
    cases kind <;> decide +kernel
  · have hcandidates :
        suggestWith log (first.eligible {}) (Text.trim "tasks and notes") 3 ≠ [] := by
      rw [ne_eq, suggestWith_eq_nil_iff, hfirst]
      decide +kernel
    have hexact : bestExact (first.eligible {}) (Text.trim "tasks and notes") = none :=
      (bestExact_eq_none_iff_contenders hphrases).mpr (by decide +kernel)
    have hrematch : rematch (first.eligible {}) (Text.trim "tasks and notes") = none :=
      if_pos (by decide +kernel)
    rw [resolveWith, routeWith, if_neg (by decide +kernel), hexact, hrematch, if_neg hcandidates]
    rfl

end Snapshot

end Phrasebook
