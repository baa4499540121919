import Phrasebook.Proofs.Relevance.Doubles
import Phrasebook.Proofs.Routing.Placement
import Phrasebook.Proofs.Routing.Ranking

/-!
# Suggestions in doubles

Nothing is known in general of the logarithm of doubles, so it is made a parameter here. It enters
into the scores of suggestions only. For a logarithm that is bounded as logarithms are, every score
is a number, and numbers compare by their place. The comparison of suggestions is then one of a
linear order on the candidates of a list, and when no id occurs twice no two of them are equal in
it. So the suggestions do not depend on the order in which the entries are listed.
-/

namespace Phrasebook

namespace Routing

/-! ## A logarithm of one's choice -/

section

variable (log : Float → Float) (entries : List Entry) (request : String) (limit : Nat)

/-- The entries to suggest for a request, with weights made by the given logarithm. -/
def suggestWith : List Suggestion :=
  (rank (Arithmetic.doubleWith log) entries (Keyword.keywordSet request) limit).map suggestionOf

/-- What a request comes to, stage by stage, with weights made by the given logarithm. -/
def routeWith : Resolution :=
  if Text.trim request = "" then .noMatch
  else
    ((bestExact entries (Text.trim request)).map (resolutionOf .exact)).getD <|
      ((rematch entries (Text.trim request)).map (resolutionOf .exactStripped)).getD <|
        if suggestWith log entries (Text.trim request) limit = [] then .noMatch
        else .suggestions (suggestWith log entries (Text.trim request) limit)

theorem suggestWith_eq_nil_iff :
    suggestWith log entries request limit = [] ↔
      ¬(0 < limit ∧
        ∃ entry ∈ entries, ∃ keyword ∈ entry.keywords, keyword ∈ Keyword.keywordSet request) := by
  rw [suggestWith, List.map_eq_nil_iff, rank_eq_nil_iff]

theorem routeWith_log : routeWith Float.log entries request limit = route entries request limit :=
  (route_eq entries request limit).symm

end

/-! ## Comparing suggestions -/

/-- Where a score stands among all scores. -/
def scorePlace (score : Float) : ℤ ×ₗ ℤ ×ₗ ℤ := Double.place score.toModel.unpack

variable {log : Float → Float}

theorem before_iff_place {a b : Ranked Float} (ha : a.score.toModel.unpack.isNaN = false)
    (hb : b.score.toModel.unpack.isNaN = false) :
    Ranked.before (Arithmetic.doubleWith log) a b = true ↔
      standing (a.map scorePlace) ≤ standing (b.map scorePlace) := by
  apply before_iff_map
  · exact decide_eq_true_iff.trans (Double.lt_iff_place ha hb)
  · exact decide_eq_true_iff.trans (Double.lt_iff_place hb ha)

/-- Whether one candidate may stand before another, told by the places of their scores. -/
def Ranked.placedBefore (a b : Ranked Float) : Bool :=
  standing (a.map scorePlace) ≤ standing (b.map scorePlace)

/-- Candidates whose scores are numbers are sorted by a linear order. -/
theorem mergeSort_before_eq {choices : List (Ranked Float)}
    (h : ∀ ranked ∈ choices, ranked.score.toModel.unpack.isNaN = false) :
    choices.mergeSort (Ranked.before (Arithmetic.doubleWith log)) =
      choices.mergeSort Ranked.placedBefore := by
  have hsame : ∀ a ∈ choices, ∀ b ∈ choices,
      Ranked.before (Arithmetic.doubleWith log) a b = (id a).placedBefore (id b) := by
    intro a ha b hb
    rw [Bool.eq_iff_iff, before_iff_place (h a ha) (h b hb)]
    exact decide_eq_true_iff.symm
  have hsort := List.map_mergeSort hsame
  rwa [List.map_id, List.map_id] at hsort

theorem pairwise_mergeSort_placedBefore (choices : List (Ranked Float)) :
    (choices.mergeSort Ranked.placedBefore).Pairwise fun a b ↦ a.placedBefore b = true := by
  refine List.pairwise_mergeSort ?_ ?_ choices
  · intro a b c hab hbc
    exact decide_eq_true ((of_decide_eq_true hab).trans (of_decide_eq_true hbc))
  · intro a b
    rw [Bool.or_eq_true]
    exact (le_total _ _).imp decide_eq_true decide_eq_true

theorem id_eq_of_standing_eq {R : Type} {a b : Ranked R} (h : standing a = standing b) :
    a.entry.id = b.entry.id :=
  congrArg (fun place : Rᵒᵈ ×ₗ ℕᵒᵈ ×ₗ ℤ ×ₗ String ↦ (ofLex (ofLex (ofLex place).2).2).2) h

/-- Candidates with distinct ids are sorted in one way only. -/
theorem mergeSort_perm_eq {choices others : List (Ranked Float)} (hperm : choices.Perm others)
    (hid : (choices.map (·.entry.id)).Nodup)
    (h : ∀ ranked ∈ choices, ranked.score.toModel.unpack.isNaN = false) :
    choices.mergeSort (Ranked.before (Arithmetic.doubleWith log)) =
      others.mergeSort (Ranked.before (Arithmetic.doubleWith log)) := by
  have hothers : ∀ ranked ∈ others, ranked.score.toModel.unpack.isNaN = false :=
    fun ranked hranked ↦ h ranked (hperm.mem_iff.mpr hranked)
  rw [mergeSort_before_eq h, mergeSort_before_eq hothers]
  refine List.Perm.eq_of_pairwise (fun a b ha hb hab hba ↦ ?_)
    (pairwise_mergeSort_placedBefore choices) (pairwise_mergeSort_placedBefore others)
    (((List.mergeSort_perm _ _).trans hperm).trans (List.mergeSort_perm _ _).symm)
  have hstanding := le_antisymm (of_decide_eq_true hab) (of_decide_eq_true hba)
  have hsame : a.entry.id = b.entry.id :=
    id_eq_of_standing_eq (a := a.map scorePlace) (b := b.map scorePlace) hstanding
  exact List.inj_on_of_nodup_map hid (List.mem_mergeSort.mp ha)
    (hperm.mem_iff.mpr (List.mem_mergeSort.mp hb)) hsame

/-- **The suggestions do not depend on the order of the entries.** -/
theorem rank_perm (hlog : LogBounded log) {entries others : List Entry}
    (hperm : entries.Perm others) (hid : (entries.map (·.id)).Nodup)
    (hsize : entries.length < 2 ^ 64) (request : NameSet) (limit : Nat) :
    rank (Arithmetic.doubleWith log) entries request limit =
      rank (Arithmetic.doubleWith log) others request limit := by
  have hbags : (entries.map (·.keywords)).Perm (others.map (·.keywords)) := hperm.map _
  have hover : (overlapping (Arithmetic.doubleWith log) entries request).Perm
      (overlapping (Arithmetic.doubleWith log) others request) := by
    rw [overlapping, overlapping]
    simp only [KeywordWeights.score_congr _ (hbags.filter _)]
    exact (hperm.filter _).map _
  rw [rank, rank, mergeSort_perm_eq hover]
  · rw [overlapping, List.map_map]
    exact hid.sublist (List.filter_sublist.map _)
  · intro ranked hranked
    rw [overlapping] at hranked
    obtain ⟨entry, -, rfl⟩ := List.mem_map.mp hranked
    exact KeywordWeights.isNaN_score hlog (by rwa [List.length_map]) request entry.keywords

theorem suggestWith_map_unplaced (entries : List Entry) (request : String) (limit : Nat) :
    suggestWith log (entries.map Entry.unplaced) request limit =
      suggestWith log entries request limit :=
  map_suggestionOf_rank_unplaced (Arithmetic.doubleWith log) entries (Keyword.keywordSet request)
    limit

/-- Entries may even change their places, as long as nothing else of them changes. -/
theorem suggestWith_perm (hlog : LogBounded log) {entries others : List Entry}
    (hperm : (entries.map Entry.unplaced).Perm (others.map Entry.unplaced))
    (hid : (entries.map (·.id)).Nodup) (hsize : entries.length < 2 ^ 64) (request : String)
    (limit : Nat) :
    suggestWith log entries request limit = suggestWith log others request limit := by
  have hunplaced : (entries.map Entry.unplaced).map (·.id) = entries.map (·.id) := by
    rw [List.map_map]
    rfl
  rw [← suggestWith_map_unplaced, ← suggestWith_map_unplaced others, suggestWith, suggestWith,
    rank_perm hlog hperm (hunplaced ▸ hid) (by rwa [List.length_map])]

end Routing

/-- What a request made in the scope comes to, with weights made by the given logarithm. -/
def Snapshot.resolveWith (log : Float → Float) (snapshot : Snapshot) (request : String)
    (scope : Scope) (limit : Nat) : Resolution :=
  Routing.routeWith log (snapshot.eligible scope) request limit

theorem Snapshot.resolveWith_log (snapshot : Snapshot) (request : String) (scope : Scope)
    (limit : Nat) :
    snapshot.resolveWith Float.log request scope limit = snapshot.resolve request scope limit :=
  Routing.routeWith_log (snapshot.eligible scope) request limit

end Phrasebook
