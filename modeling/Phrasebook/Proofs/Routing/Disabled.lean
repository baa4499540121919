import Phrasebook.Proofs.Routing.Placement
import Phrasebook.Proofs.Snapshot.Addressing
import Phrasebook.Proofs.Snapshot.Listing

/-!
# Aliases that are not enabled

An alias that is not enabled takes no part in answering a request. It is not as good as absent,
though: it is checked like any other, and if it gets an entry then its phrase is taken, so a later
alias with the same phrase in the same layer is kept out of the snapshot even when that one is
enabled. This is all that it does. `HeldByDisabled` names the aliases that may suffer from it.

## What a caller can tell apart

Requests made in a scope are answered from the admitted aliases that are eligible there, and from
nothing else (`resolve_build_congr`). So the question is what happens to those when aliases are
left out before the snapshot is built. `admitted_filter` answers it once for every choice: leaving
out aliases before or after admission is the same, as long as no alias is kept whose phrase is held
by one that is left out.
-/

namespace Phrasebook

/-! ## Leaving out aliases -/

/-- The phrase of the alias is held by one that is not enabled. -/
def HeldByDisabled (aliases : List Alias) (a : Alias) : Prop :=
  ∃ b ∈ admitted aliases, b.enabled = false ∧ b.SamePhrase a

instance (aliases : List Alias) (a : Alias) : Decidable (HeldByDisabled aliases a) :=
  inferInstanceAs (Decidable (∃ b ∈ _, _))

theorem HeldByDisabled.of_samePhrase {aliases : List Alias} {a b : Alias}
    (h : HeldByDisabled aliases b) (hsame : b.SamePhrase a) : HeldByDisabled aliases a := by
  obtain ⟨holder, hmem, hdisabled, hholder⟩ := h
  exact ⟨holder, hmem, hdisabled, hholder.1.trans hsame.1, hholder.2.trans hsame.2⟩

/-- The alias finds the same phrases taken, since whoever holds its own is kept. -/
theorem isAdmitted_filter_iff {p : Alias → Bool} {aliases : List Alias} {a : Alias}
    (hrest : admitted (aliases.filter p) = (admitted aliases).filter p)
    (h : ∀ b ∈ admitted aliases, b.SamePhrase a → p b = true) :
    Occurrence.IsAdmitted ⟨aliases.filter p, a⟩ ↔ Occurrence.IsAdmitted ⟨aliases, a⟩ := by
  have htaken : Occurrence.IsTaken ⟨aliases.filter p, a⟩ ↔ Occurrence.IsTaken ⟨aliases, a⟩ := by
    rw [← exists_mem_admitted_iff, ← exists_mem_admitted_iff, hrest]
    simp only [List.mem_filter]
    constructor
    · rintro ⟨b, ⟨hb, -⟩, hsame⟩
      exact ⟨b, hb, hsame⟩
    · rintro ⟨b, hb, hsame⟩
      exact ⟨b, ⟨hb, h b hb hsame⟩, hsame⟩
  exact and_congr_right fun _ ↦ not_congr htaken

/-- **Aliases may be left out before or after admission**, if none is kept whose phrase is held by
one that is left out. -/
theorem admitted_filter {p : Alias → Bool} {aliases : List Alias}
    (h : ∀ a ∈ aliases, p a = true → ∀ b ∈ admitted aliases, b.SamePhrase a → p b = true) :
    admitted (aliases.filter p) = (admitted aliases).filter p := by
  -- from the end of the list, since what is admitted there depends on all that comes before
  induction aliases using List.reverseRecOn with
  | nil => rfl
  | append_singleton aliases a ih =>
    have hearlier : ∀ b ∈ admitted aliases, b ∈ admitted (aliases ++ [a]) := by
      intro b hb
      rw [admitted_append_singleton]
      exact List.mem_append_left _ hb
    have hrest : admitted (aliases.filter p) = (admitted aliases).filter p := by
      apply ih
      intro c hc hpc b hb
      exact h c (List.mem_append_left _ hc) hpc b (hearlier b hb)
    rw [admitted_append_singleton, List.filter_append, List.filter_append]
    by_cases hp : p a = true
    · have hadmitted := isAdmitted_filter_iff hrest fun b hb ↦
        h a (List.mem_append_right _ List.mem_cons_self) hp b (hearlier b hb)
      have hkept : [a].filter p = [a] := by rw [List.filter_cons_of_pos hp, List.filter_nil]
      rw [hkept, admitted_append_singleton, hrest]
      congr 1
      by_cases hentry : Occurrence.IsAdmitted ⟨aliases, a⟩
      · rw [if_pos hentry, if_pos (hadmitted.mpr hentry), hkept]
      · rw [if_neg hentry, if_neg (mt hadmitted.mp hentry), List.filter_nil]
    · have hnone : [a].filter p = [] := by rw [List.filter_cons_of_neg hp, List.filter_nil]
      rw [hnone, List.append_nil, hrest]
      split
      · rw [hnone, List.append_nil]
      · rw [List.filter_nil, List.append_nil]

/-- Two admitted aliases with one phrase are the same. -/
theorem eq_of_samePhrase {aliases : List Alias} {a b : Alias} (ha : a ∈ admitted aliases)
    (hb : b ∈ admitted aliases) (h : b.SamePhrase a) : b = a := by
  have hsymm : Std.Symm fun a b : Alias ↦ ¬a.SamePhrase b := by
    constructor
    intro a b hab hba
    exact hab ⟨hba.1.symm, hba.2.symm⟩
  by_contra hne
  exact (pairwise_admitted aliases).forall hb ha hne h

/-! ## What requests are answered from -/

/-- An entry is determined by its alias, up to its place. -/
theorem Entry.IsMade.unplaced_eq {a b : Entry} (ha : a.IsMade) (hb : b.IsMade)
    (h : a.definition = b.definition) : a.unplaced = b.unplaced := by
  have hid : a.id = b.id := by rw [ha.id, hb.id, h]
  have hpattern : a.pattern = b.pattern := by
    have hcompile := ha.pattern
    rw [h, hb.pattern] at hcompile
    exact (Except.ok.inj hcompile).symm
  have hkeywords : a.keywords = b.keywords := by rw [ha.keywords, hb.keywords, hpattern]
  rw [Entry.unplaced, Entry.unplaced, hid, h, hpattern, hkeywords]

theorem map_unplaced_eq {entries : List Entry} :
    ∀ {others : List Entry}, (∀ entry ∈ entries, entry.IsMade) →
      (∀ entry ∈ others, entry.IsMade) →
      entries.map (·.definition) = others.map (·.definition) →
      entries.map Entry.unplaced = others.map Entry.unplaced := by
  induction entries with
  | nil =>
    intro others _ _ h
    rw [List.map_eq_nil_iff.mp h.symm]
  | cons entry entries ih =>
    intro others hentries hothers h
    obtain ⟨other, others, rfl, hfirst, hrest⟩ := List.map_eq_cons_iff.mp h.symm
    have hunplaced : entry.unplaced = other.unplaced :=
      (hentries entry List.mem_cons_self).unplaced_eq (hothers other List.mem_cons_self)
        hfirst.symm
    have htail : entries.map Entry.unplaced = others.map Entry.unplaced := by
      apply ih
      · exact fun found hfound ↦ hentries found (List.mem_cons_of_mem _ hfound)
      · exact fun found hfound ↦ hothers found (List.mem_cons_of_mem _ hfound)
      · exact hrest.symm
    rw [List.map_cons, List.map_cons, hunplaced, htail]

namespace Snapshot

/-- **Requests are answered from the admitted aliases that are eligible**, and from nothing else
that a list of aliases holds. -/
theorem resolve_build_congr {aliases others : List Alias} {scope : Scope}
    (h : (admitted aliases).filter (·.isEligible scope) =
      (admitted others).filter (·.isEligible scope))
    (version other : UInt64) (request : String) (limit : Nat) :
    (build version aliases).resolve request scope limit =
      (build other others).resolve request scope limit := by
  have hfirst : Records aliases (build version aliases) := records_build version aliases
  have hsecond : Records others (build other others) := records_build other others
  have hmade : ∀ {aliases : List Alias} {snapshot : Snapshot}, Records aliases snapshot →
      ∀ entry ∈ snapshot.eligible scope, entry.IsMade := by
    intro aliases snapshot hrecords entry hentry
    exact hrecords.made entry (hrecords.indexed.mem_eligible_iff.mp hentry).1
  have hascending : ∀ {snapshot : Snapshot}, Indexed snapshot →
      (snapshot.eligible scope).Pairwise fun a b ↦ a.position < b.position := by
    intro snapshot hindexed
    rw [hindexed.eligible_eq]
    exact hindexed.ascending.filter _
  have hsame : ((build version aliases).eligible scope).map Entry.unplaced =
      ((build other others).eligible scope).map Entry.unplaced := by
    apply map_unplaced_eq (hmade hfirst) (hmade hsecond)
    rw [hfirst.map_definition_eligible, hsecond.map_definition_eligible, h]
  exact Routing.route_eq_of_map_unplaced_eq (hascending hfirst.indexed)
    (hascending hsecond.indexed) hsame request limit

end Snapshot

/-! ## Leaving out what is not enabled -/

theorem Alias.enabled_of_isEligible {a : Alias} {scope : Scope} (h : a.isEligible scope = true) :
    a.enabled = true := by
  rw [Alias.isEligible, Bool.and_eq_true, Bool.and_eq_true] at h
  exact h.1.1

section

variable (aliases : List Alias)

/-- An alias whose phrase is held by none that is disabled has a holder that is enabled. -/
theorem admitted_filter_enabled_unheld :
    admitted (aliases.filter fun a ↦ a.enabled = true ∧ ¬HeldByDisabled aliases a) =
      (admitted aliases).filter fun a ↦ a.enabled = true ∧ ¬HeldByDisabled aliases a := by
  apply admitted_filter
  intro a _ ha b hb hsame
  have hfree : ¬HeldByDisabled aliases a := (of_decide_eq_true ha).2
  have henabled : b.enabled = true := by
    by_contra hdisabled
    exact hfree ⟨b, hb, Bool.not_eq_true _ ▸ hdisabled, hsame⟩
  exact decide_eq_true ⟨henabled, fun hheld ↦ hfree (hheld.of_samePhrase hsame)⟩

/-- Of the enabled aliases, those whose phrase is held compete for it only among themselves. -/
theorem admitted_filter_unheld :
    admitted (aliases.filter fun a ↦ a.enabled = true ∧ ¬HeldByDisabled aliases a) =
      (admitted (aliases.filter (·.enabled))).filter fun a ↦ ¬HeldByDisabled aliases a := by
  have hsplit : (aliases.filter fun a ↦ a.enabled = true ∧ ¬HeldByDisabled aliases a) =
      (aliases.filter (·.enabled)).filter fun a ↦ ¬HeldByDisabled aliases a := by
    rw [List.filter_filter]
    apply List.filter_congr
    intro a _
    simp [Bool.and_comm]
  rw [hsplit]
  apply admitted_filter
  intro a _ ha b _ hsame
  have hfree : ¬HeldByDisabled aliases a := of_decide_eq_true ha
  exact decide_eq_true fun hheld ↦ hfree (hheld.of_samePhrase hsame)

/-- An admitted alias that is enabled holds its phrase itself. -/
theorem not_heldByDisabled_of_mem_admitted {aliases : List Alias} {a : Alias}
    (h : a ∈ admitted aliases) (henabled : a.enabled = true) : ¬HeldByDisabled aliases a := by
  rintro ⟨b, hb, hdisabled, hsame⟩
  rw [eq_of_samePhrase h hb hsame, henabled] at hdisabled
  cases hdisabled

/-- What takes part is enabled, and so is not left out. -/
theorem filter_isEligible_filter_enabled_unheld (scope : Scope) :
    ((admitted aliases).filter fun a ↦ a.enabled = true ∧ ¬HeldByDisabled aliases a).filter
        (·.isEligible scope) =
      (admitted aliases).filter (·.isEligible scope) := by
  rw [List.filter_filter]
  apply List.filter_congr
  intro a ha
  cases heligible : a.isEligible scope with
  | false => rfl
  | true =>
    have henabled : a.enabled = true := Alias.enabled_of_isEligible heligible
    have hfree := not_heldByDisabled_of_mem_admitted ha henabled
    rw [Bool.true_and, decide_eq_true ⟨henabled, hfree⟩]

end

namespace Snapshot

/-- **What an alias that is not enabled does.** It may be left out together with the aliases whose
phrase it holds, and no request comes to anything else. So it may be left out alone if none of the
aliases that then take part has a phrase that it held. -/
theorem resolve_build_without_disabled (version other : UInt64) (aliases : List Alias)
    (scope : Scope) (request : String) (limit : Nat) :
    (build version aliases).resolve request scope limit =
      (build other (aliases.filter fun a ↦ a.enabled = true ∧ ¬HeldByDisabled aliases a)).resolve
        request scope limit ∧
    ((∀ a ∈ admitted (aliases.filter (·.enabled)), a.isEligible scope = true →
        ¬HeldByDisabled aliases a) →
      (build version aliases).resolve request scope limit =
        (build other (aliases.filter (·.enabled))).resolve request scope limit) := by
  have hheld : (admitted aliases).filter (·.isEligible scope) =
      (admitted (aliases.filter fun a ↦ a.enabled = true ∧ ¬HeldByDisabled aliases a)).filter
        (·.isEligible scope) := by
    rw [admitted_filter_enabled_unheld, filter_isEligible_filter_enabled_unheld]
  refine ⟨resolve_build_congr hheld version other request limit, fun hfree ↦ ?_⟩
  have hdisabled : (admitted aliases).filter (·.isEligible scope) =
      (admitted (aliases.filter (·.enabled))).filter (·.isEligible scope) := by
    rw [hheld, admitted_filter_unheld, List.filter_filter]
    apply List.filter_congr
    intro a ha
    cases heligible : a.isEligible scope with
    | false => rfl
    | true => rw [Bool.true_and, decide_eq_true (hfree a ha heligible)]
  exact resolve_build_congr hdisabled version other request limit

/-- A disabled alias goes before all others by its priority, another one repeats a phrase, and a
third cannot be read. None of them holds the phrase of an alias that takes part. -/
theorem resolve_build_without_disabled_of_repeated :
    (∀ a ∈ admitted ([{ pattern := "my {thing}", enabled := false, priority := -1 },
          { pattern := "my tasks" }, { pattern := "my tasks", enabled := false },
          { pattern := "\x7b", enabled := false }].filter (·.enabled)),
        a.isEligible {} = true →
        ¬HeldByDisabled [{ pattern := "my {thing}", enabled := false, priority := -1 },
          { pattern := "my tasks" }, { pattern := "my tasks", enabled := false },
          { pattern := "\x7b", enabled := false }] a) ∧
    (build 2 [{ pattern := "my {thing}", enabled := false, priority := -1 },
          { pattern := "my tasks" }, { pattern := "my tasks", enabled := false },
          { pattern := "\x7b", enabled := false }]).resolve "my tasks" {} 3 =
      (build 1 [{ pattern := "my tasks" }]).resolve "my tasks" {} 3 := by
  let aliases : List Alias := [{ pattern := "my {thing}", enabled := false, priority := -1 },
    { pattern := "my tasks" }, { pattern := "my tasks", enabled := false },
    { pattern := "\x7b", enabled := false }]
  have hfree : ∀ a ∈ admitted (aliases.filter (·.enabled)), a.isEligible {} = true →
      ¬HeldByDisabled aliases a := by decide +kernel
  exact ⟨hfree, (resolve_build_without_disabled 2 1 aliases {} "my tasks" 3).2 hfree⟩

/-- A disabled alias keeps an enabled one with the same phrase out of the snapshot, and the request
that this one would answer comes to nothing. -/
theorem not_resolve_build_filter_enabled :
    ¬∀ (version other : UInt64) (aliases : List Alias) (scope : Scope) (request : String)
        (limit : Nat),
      (build version aliases).resolve request scope limit =
        (build other (aliases.filter (·.enabled))).resolve request scope limit := by
  intro h
  have hsame := congrArg Resolution.isMatch
    (h 1 1 [{ pattern := "my tasks", enabled := false }, { pattern := "my tasks" }] {} "my tasks" 3)
  revert hsame
  decide +kernel

end Snapshot

end Phrasebook
