import Phrasebook.Proofs.Routing.Precedence

/-!
# The winner is a matter of the entries alone

Among entries with different places there is at most one that matches and goes strictly before
every other that matches. `IsWinner` says so without mentioning how the entries are compared, or in
which order, and `bestExact_eq_some_iff` says that this is the one that is found.

That the order of the entries is irrelevant, that losers may be taken away, and that a newcomer can
only win or change nothing, then need no look at the comparison any more: each is a fact about
`IsWinner`, which speaks of the members of the list only.
-/

namespace Phrasebook

/-- The entry goes before the other if both match: it has the lower priority; or that is the same
and only the other one is public; or both are the same and it was defined later. -/
def Entry.GoesBefore (a b : Entry) : Prop :=
  a.definition.priority.toInt < b.definition.priority.toInt ∨
    a.definition.priority.toInt = b.definition.priority.toInt ∧
      (a.definition.isPublic = false ∧ b.definition.isPublic = true ∨
        a.definition.isPublic = b.definition.isPublic ∧ b.position < a.position)

theorem Entry.goesBefore_iff {a b : Entry} : a.GoesBefore b ↔ a.rank < b.rank := by
  have hpublic : ∀ x y : Bool, x < y ↔ x = false ∧ y = true := by decide
  rw [GoesBefore, Entry.rank, Entry.rank, Prod.Lex.toLex_lt_toLex, Prod.Lex.toLex_lt_toLex,
    OrderDual.toDual_lt_toDual, hpublic]

namespace Routing

/-! ## Winning -/

/-- The match is one with the text, and its entry goes before all others that match. -/
structure IsWinner (entries : List Entry) (text : String) (found : ExactMatch) : Prop where
  mem : found.entry ∈ entries
  captures : found.entry.pattern.captures? text = some found.captures
  goesBefore : ∀ other ∈ entries, other.pattern.isMatch text = true → other ≠ found.entry →
    found.entry.GoesBefore other

variable {entries others : List Entry} {text : String} {found : ExactMatch}

/-- At most one entry wins. -/
theorem IsWinner.unique (h : IsWinner entries text found) {other : ExactMatch}
    (hother : IsWinner entries text other) : found = other := by
  have hmatch : ∀ {winner : ExactMatch}, IsWinner entries text winner →
      winner.entry.pattern.isMatch text = true :=
    fun hwinner ↦ isMatch_iff_captures?.mpr ⟨_, hwinner.captures⟩
  have hentry : found.entry = other.entry := by
    by_contra hne
    have hbefore := h.goesBefore other.entry hother.mem (hmatch hother) (Ne.symm hne)
    have hafter := hother.goesBefore found.entry h.mem (hmatch h) hne
    rw [Entry.goesBefore_iff] at hbefore hafter
    exact hbefore.asymm hafter
  have hcaptures : found.captures = other.captures := by
    have hsame := h.captures
    rw [hentry, hother.captures] at hsame
    exact (Option.some_inj.mp hsame).symm
  cases found
  cases other
  simp_all

/-- Whoever wins also wins against fewer. -/
theorem IsWinner.of_subset (h : IsWinner entries text found) (hsub : others ⊆ entries)
    (hmem : found.entry ∈ others) : IsWinner others text found where
  mem := hmem
  captures := h.captures
  goesBefore := fun other hother ↦ h.goesBefore other (hsub hother)

/-- **The match that is found is the winner.** -/
theorem bestExact_eq_some_iff (h : entries.Pairwise fun a b ↦ a.position ≠ b.position) :
    bestExact entries text = some found ↔ IsWinner entries text found := by
  have hfinds : ∀ {winner : ExactMatch}, bestExact entries text = some winner →
      IsWinner entries text winner := by
    intro winner hwinner
    obtain ⟨-, hmem, hcaptures⟩ := of_bestExact_eq_some hwinner
    refine ⟨hmem, hcaptures, fun other hother hmatch hne ↦ ?_⟩
    obtain ⟨captures, hothers⟩ := isMatch_iff_captures?.mp hmatch
    have hle : winner.entry.rank ≤ other.rank :=
      best_le hwinner ⟨other, captures⟩ (mem_matches_iff.mpr ⟨hother, hothers⟩)
    -- a tie would be between two entries at one place
    have htie : winner.entry.rank ≠ other.rank :=
      fun hrank ↦ hne (Entry.eq_of_rank_eq h hmem hother hrank).symm
    exact Entry.goesBefore_iff.mpr (lt_of_le_of_ne hle htie)
  constructor
  · exact hfinds
  · intro hwinner
    have hhits : Hits entries text :=
      ⟨found.entry, hwinner.mem, isMatch_iff_captures?.mpr ⟨_, hwinner.captures⟩⟩
    obtain ⟨best, hbest, -⟩ := exists_bestExact hhits
    rw [hbest, (hfinds hbest).unique hwinner]

/-! ## Other lists of entries -/

theorem bestExact_eq_none_iff_forall :
    bestExact entries text = none ↔ ∀ entry ∈ entries, entry.pattern.isMatch text = false := by
  rw [bestExact_eq_none_iff]
  simp [Hits]

/-- Two lists with the same winners find the same. -/
theorem bestExact_congr (h : entries.Pairwise fun a b ↦ a.position ≠ b.position)
    (hothers : others.Pairwise fun a b ↦ a.position ≠ b.position)
    (hwinner : ∀ found, IsWinner entries text found ↔ IsWinner others text found) :
    bestExact entries text = bestExact others text := by
  apply Option.ext
  intro found
  rw [bestExact_eq_some_iff h, bestExact_eq_some_iff hothers, hwinner]

theorem bestExact_perm (h : entries.Pairwise fun a b ↦ a.position ≠ b.position)
    (hperm : others.Perm entries) : bestExact others text = bestExact entries text := by
  have hothers : others.Pairwise fun a b ↦ a.position ≠ b.position :=
    (hperm.pairwise_iff Ne.symm).mpr h
  apply bestExact_congr hothers h
  intro found
  constructor
  · exact fun hwinner ↦ hwinner.of_subset hperm.symm.subset (hperm.subset hwinner.mem)
  · exact fun hwinner ↦ hwinner.of_subset hperm.subset (hperm.symm.subset hwinner.mem)

/-- A newcomer wins, or the winner stays the same. -/
theorem bestExact_cons (h : entries.Pairwise fun a b ↦ a.position ≠ b.position) {entry : Entry}
    (hnew : ∀ other ∈ entries, entry.position ≠ other.position) :
    bestExact (entry :: entries) text = bestExact entries text ∨
      ∃ captures, bestExact (entry :: entries) text = some ⟨entry, captures⟩ := by
  have hmore : (entry :: entries).Pairwise fun a b ↦ a.position ≠ b.position :=
    List.pairwise_cons.mpr ⟨hnew, h⟩
  cases hbest : bestExact (entry :: entries) text with
  | none =>
    -- nobody matches, with or without the newcomer
    refine Or.inl (Eq.symm ?_)
    rw [bestExact_eq_none_iff_forall] at hbest ⊢
    exact fun other hother ↦ hbest other (List.mem_cons_of_mem entry hother)
  | some found =>
    have hwinner := (bestExact_eq_some_iff hmore).mp hbest
    rcases List.mem_cons.mp hwinner.mem with hentry | hmem
    · exact Or.inr ⟨found.captures, by rw [← hentry]⟩
    · refine Or.inl (Eq.symm ?_)
      rw [bestExact_eq_some_iff h]
      exact hwinner.of_subset (List.subset_cons_self entry entries) hmem

/-- **The winner among exact matches.** For entries at different places nothing is found exactly if
none of them matches, and otherwise the one match that goes strictly before every other. So it is
the same in whatever order the entries stand, it stays the same when others are taken away, and one
more entry changes it only by winning itself. -/
theorem bestExact_isWinner {entries : List Entry}
    (h : entries.Pairwise fun a b ↦ a.position ≠ b.position) (text : String) :
    (bestExact entries text = none ↔ ∀ entry ∈ entries, entry.pattern.isMatch text = false) ∧
    (∀ found, bestExact entries text = some found ↔
      found.entry ∈ entries ∧ found.entry.pattern.captures? text = some found.captures ∧
        ∀ other ∈ entries, other.pattern.isMatch text = true → other ≠ found.entry →
          found.entry.GoesBefore other) ∧
    (∀ others, others.Perm entries → bestExact others text = bestExact entries text) ∧
    (∀ others found, others.Sublist entries → bestExact entries text = some found →
      found.entry ∈ others → bestExact others text = some found) ∧
    (∀ entry others, (∀ other ∈ entries, entry.position ≠ other.position) →
      others.Perm (entry :: entries) →
        bestExact others text = bestExact entries text ∨
          ∃ captures, bestExact others text = some ⟨entry, captures⟩) := by
  refine ⟨bestExact_eq_none_iff_forall, ?_, fun others ↦ bestExact_perm h, ?_, ?_⟩
  · intro found
    rw [bestExact_eq_some_iff h]
    exact ⟨fun hwinner ↦ ⟨hwinner.mem, hwinner.captures, hwinner.goesBefore⟩,
      fun ⟨hmem, hcaptures, hbefore⟩ ↦ ⟨hmem, hcaptures, hbefore⟩⟩
  · intro others found hsub hfound hmem
    have hwinner := (bestExact_eq_some_iff h).mp hfound
    rw [bestExact_eq_some_iff (h.sublist hsub)]
    exact hwinner.of_subset hsub.subset hmem
  · intro entry others hnew hperm
    have hmore : (entry :: entries).Pairwise fun a b ↦ a.position ≠ b.position :=
      List.pairwise_cons.mpr ⟨hnew, h⟩
    rw [bestExact_perm hmore hperm]
    exact bestExact_cons h hnew

/-- Three phrases have the form of the text. Two have the least priority that there is, and of these
the later one is found in either direction. -/
theorem bestExact_isWinner_of_reversed :
    let entries := (Snapshot.build 1 [{ pattern := "my {x}", priority := -2147483648 },
      { pattern := "my tasks", layer := "desk" },
      { pattern := "my {y}", priority := -2147483648 }]).entries
    entries.Pairwise (fun a b ↦ a.position ≠ b.position) ∧
    (bestExact entries.reverse "my tasks").map (·.entry.position) = some 2 := by
  intro entries
  have hplaces : entries.Pairwise fun a b ↦ a.position ≠ b.position := by decide +kernel
  obtain ⟨-, -, hperm, -⟩ := bestExact_isWinner hplaces "my tasks"
  refine ⟨hplaces, ?_⟩
  rw [hperm entries.reverse (List.reverse_perm entries)]
  decide +kernel

end Routing

end Phrasebook
