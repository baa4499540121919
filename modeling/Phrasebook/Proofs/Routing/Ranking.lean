import Mathlib.Data.Prod.Lex
import Mathlib.Data.String.Basic
import Phrasebook.Proofs.Relevance.Exact
import Phrasebook.Proofs.Routing.Precedence

/-!
# The best suggestions

Suggestions are the entries that share a keyword with the request, sorted and cut off. Sorting means
something only if the comparison is that of an order. The comparison goes down four levels, two of
them backwards, and the first compares scores in both directions and takes what is left for equal.
In exact arithmetic nothing else is left, and the comparison is that of `standing`, a value in a
linear order.

## Places

Two candidates may agree in everything that is compared, and even in everything else. So what is
said of the result is said of places in the list of candidates: `IsTop` lists the places of the best
ones, each once, and two candidates of one standing keep their order. The sort knows about places
through its stability: sorting the candidates with their places, where places decide between equal
ones, gives the same list.
-/

namespace Phrasebook

/-! ## Sorting with places -/

section Sorting

variable {α κ : Type} [LinearOrder κ]

/-- The places are those of the best of some choices, at most `limit` of them. Lower keys are
better, and between two choices with one key the earlier is better. -/
structure IsTop (key : α → κ) (choices : List α) (limit : Nat) (places : List Nat) : Prop where
  valid : ∀ i ∈ places, i < choices.length
  nodup : places.Nodup
  length : places.length = min limit choices.length
  ordered : places.Pairwise fun i j ↦ ∀ a b, choices[i]? = some a → choices[j]? = some b →
    key a < key b ∨ key a = key b ∧ i < j
  best : ∀ i ∈ places, ∀ j, j ∉ places → ∀ a b, choices[i]? = some a → choices[j]? = some b →
    key a < key b ∨ key a = key b ∧ i < j

/-- The places of some choices in the order in which sorting arranges them. -/
def sortedPlaces (le : α → α → Bool) (choices : List α) : List Nat :=
  (choices.zipIdx.mergeSort (List.zipIdxLE le)).map (·.2)

theorem sortedPlaces_perm (le : α → α → Bool) (choices : List α) :
    (sortedPlaces le choices).Perm (List.range choices.length) := by
  have hperm := (List.mergeSort_perm choices.zipIdx (List.zipIdxLE le)).map (·.2)
  rwa [List.zipIdx_map_snd, ← List.range_eq_range'] at hperm

theorem length_sortedPlaces (le : α → α → Bool) (choices : List α) :
    (sortedPlaces le choices).length = choices.length := by
  rw [(sortedPlaces_perm le choices).length_eq, List.length_range]

theorem nodup_sortedPlaces (le : α → α → Bool) (choices : List α) :
    (sortedPlaces le choices).Nodup :=
  (sortedPlaces_perm le choices).nodup_iff.mpr List.nodup_range

theorem mem_sortedPlaces_iff {le : α → α → Bool} {choices : List α} {i : Nat} :
    i ∈ sortedPlaces le choices ↔ i < choices.length := by
  rw [(sortedPlaces_perm le choices).mem_iff, List.mem_range]

theorem getElem?_of_mem_numbered {le : α → α → Bool} {choices : List α} {x : α × Nat}
    (h : x ∈ choices.zipIdx.mergeSort (List.zipIdxLE le)) : choices[x.2]? = some x.1 :=
  List.mem_zipIdx_iff_getElem?.mp (List.mem_mergeSort.mp h)

/-- At the sorted places stands the sorted list. -/
theorem map_sortedPlaces (le : α → α → Bool) (choices : List α) :
    (sortedPlaces le choices).map (choices[·]?) = (choices.mergeSort le).map some := by
  rw [← List.mergeSort_zipIdx, sortedPlaces, List.map_map, List.map_map]
  exact List.map_congr_left fun x hx ↦ getElem?_of_mem_numbered hx

variable {key : α → κ} {le : α → α → Bool}

theorem pairwise_sortedPlaces (hle : ∀ a b, le a b = true ↔ key a ≤ key b) (choices : List α) :
    (sortedPlaces le choices).Pairwise fun i j ↦ ∀ a b, choices[i]? = some a →
      choices[j]? = some b → key a < key b ∨ key a = key b ∧ i < j := by
  have htrans : ∀ a b c, le a b = true → le b c = true → le a c = true := by
    intro a b c hab hbc
    exact (hle a c).mpr (((hle a b).mp hab).trans ((hle b c).mp hbc))
  have htotal : ∀ a b, (le a b || le b a) = true := by
    intro a b
    rw [Bool.or_eq_true, hle, hle]
    exact le_total _ _
  have hsorted := List.pairwise_mergeSort (List.zipIdxLE_trans htrans)
    (List.zipIdxLE_total htotal) choices.zipIdx
  have hdistinct := List.pairwise_map.mp (nodup_sortedPlaces le choices)
  rw [sortedPlaces, List.pairwise_map]
  refine (hsorted.and hdistinct).imp_of_mem fun {x y} hx hy ⟨hxy, hne⟩ a b ha hb ↦ ?_
  obtain rfl := Option.some_inj.mp ((getElem?_of_mem_numbered hx).symm.trans ha)
  obtain rfl := Option.some_inj.mp ((getElem?_of_mem_numbered hy).symm.trans hb)
  -- the place is compared only when neither key is lower
  rw [List.zipIdxLE] at hxy
  split at hxy
  · rename_i hforth
    split at hxy
    · rename_i hback
      refine Or.inr ⟨le_antisymm ((hle _ _).mp hforth) ((hle _ _).mp hback), ?_⟩
      exact lt_of_le_of_ne (of_decide_eq_true hxy) hne
    · rename_i hback
      rw [hle, not_le] at hback
      exact Or.inl hback
  · cases hxy

theorem isTop_take_sortedPlaces (hle : ∀ a b, le a b = true ↔ key a ≤ key b) (choices : List α)
    (limit : Nat) : IsTop key choices limit ((sortedPlaces le choices).take limit) := by
  have hordered := pairwise_sortedPlaces hle choices
  refine ⟨?_, ?_, ?_, ?_, ?_⟩
  · intro i hi
    exact mem_sortedPlaces_iff.mp (List.mem_of_mem_take hi)
  · exact (nodup_sortedPlaces le choices).sublist (List.take_sublist _ _)
  · rw [List.length_take, length_sortedPlaces]
  · exact hordered.sublist (List.take_sublist _ _)
  · intro i hi j hj a b ha hb
    -- what is not taken is dropped, and everything dropped comes after everything taken
    have hmem : j ∈ sortedPlaces le choices :=
      mem_sortedPlaces_iff.mpr (List.getElem?_eq_some_iff.mp hb).1
    rw [← List.take_append_drop limit (sortedPlaces le choices)] at hmem hordered
    have hdrop := (List.mem_append.mp hmem).resolve_left hj
    exact (List.pairwise_append.mp hordered).2.2 i hi j hdrop a b ha hb

end Sorting

/-! ## Candidates -/

/-- The entry has a keyword in common with a request. -/
def Entry.Shares (entry : Entry) (request : NameSet) : Prop :=
  ∃ keyword ∈ entry.keywords, keyword ∈ request

instance (entry : Entry) (request : NameSet) : Decidable (entry.Shares request) :=
  decidable_of_iff (entry.keywords.disjoint request = false) NameSet.disjoint_eq_false_iff

namespace Routing

theorem overlapping_eq {R : Type} (arith : Arithmetic R) (entries : List Entry)
    (request : NameSet) :
    overlapping arith entries request =
      (entries.filter fun entry ↦ entry.Shares request).map fun entry ↦
        ⟨entry, (KeywordWeights.ofBags (entries.map (·.keywords))).score arith request
          entry.keywords⟩ := by
  have hshares : ∀ entry ∈ entries,
      (!entry.keywords.disjoint request) = decide (entry.Shares request) := by
    intro entry _
    rw [Bool.eq_iff_iff, Bool.not_eq_true', decide_eq_true_iff]
    exact NameSet.disjoint_eq_false_iff
  rw [overlapping, List.filter_congr hshares]

/-- Cutting off keeps the first places. -/
theorem map_some_rank {R : Type} (arith : Arithmetic R) (entries : List Entry) (request : NameSet)
    (limit : Nat) :
    (rank arith entries request limit).map some =
      ((sortedPlaces (Ranked.before arith) (overlapping arith entries request)).take limit).map
        ((overlapping arith entries request)[·]?) := by
  rw [List.map_take, map_sortedPlaces, rank, List.map_take]

theorem rank_isPrefix {R : Type} (arith : Arithmetic R) (entries : List Entry) (request : NameSet)
    {limit larger : Nat} (h : limit ≤ larger) :
    rank arith entries request limit <+: rank arith entries request larger :=
  List.take_prefix_take_left h

/-! ## The order of suggestions -/

/-- Where a ranked entry stands: a higher score goes first, then more literal text, then a lower
priority, then the id. -/
def standing {R : Type} (ranked : Ranked R) : Rᵒᵈ ×ₗ ℕᵒᵈ ×ₗ ℤ ×ₗ String :=
  toLex (OrderDual.toDual ranked.score, toLex (OrderDual.toDual ranked.entry.pattern.literalLength,
    toLex (ranked.entry.definition.priority.toInt, ranked.entry.id)))

/-- The ranked entry with its score put in other terms. -/
def Ranked.map {R K : Type} (key : R → K) (ranked : Ranked R) : Ranked K :=
  ⟨ranked.entry, key ranked.score⟩

/-- The level of the scores, which asks for both directions of an order. -/
theorem ite_lt_iff {K : Type} [LinearOrder K] {x y : K} {higher lower : Bool}
    (hhigher : higher = true ↔ y < x) (hlower : lower = true ↔ x < y) (below : Bool) :
    (if higher then true else if lower then false else below) = true ↔
      y < x ∨ x = y ∧ below = true := by
  simp only [hhigher, hlower]
  rcases lt_trichotomy x y with h | rfl | h
  · simp [h, h.ne, h.not_gt]
  · simp
  · simp [h]

/-- Scores that compare like the values of a key in a linear order may be replaced by these. -/
theorem before_iff_map {R K : Type} [LinearOrder K] {arith : Arithmetic R} {key : R → K}
    {a b : Ranked R} (hab : arith.lt a.score b.score = true ↔ key a.score < key b.score)
    (hba : arith.lt b.score a.score = true ↔ key b.score < key a.score) :
    Ranked.before arith a b = true ↔ standing (a.map key) ≤ standing (b.map key) := by
  rw [standing, standing, Prod.Lex.toLex_le_toLex, Prod.Lex.toLex_le_toLex,
    Prod.Lex.toLex_le_toLex]
  simp only [OrderDual.toDual_lt_toDual, OrderDual.toDual_inj, Ranked.map]
  rw [Ranked.before]
  -- the comparison never looks into what is compared, such as the literal text
  generalize a.entry.pattern.literalLength = m, b.entry.pattern.literalLength = n
  refine (ite_lt_iff hba hab _).trans (or_congr_right (and_congr_right fun _ ↦ ?_))
  refine (match_compare_iff n m _).trans (or_congr_right (and_congr eq_comm ?_))
  refine (match_compare_iff _ _ _).trans (or_congr_right (and_congr_right fun _ ↦ ?_))
  exact decide_eq_true_iff

theorem before_iff {R : Type} [LinearOrder R] {arith : Arithmetic R}
    (hlt : ∀ x y, arith.lt x y = true ↔ x < y) (a b : Ranked R) :
    Ranked.before arith a b = true ↔ standing a ≤ standing b := by
  have hsame : ∀ ranked : Ranked R, ranked.map id = ranked := fun _ ↦ rfl
  rw [← hsame a, ← hsame b]
  exact before_iff_map (hlt _ _) (hlt _ _)

/-! ## What is suggested -/

/-- Doubles round, but the suggestions still belong to distinct candidates and are as many as there
are and are wanted. -/
theorem exists_places_suggest (entries : List Entry) (request : String) (limit : Nat) :
    let sharing := entries.filter fun entry ↦ entry.Shares (Keyword.keywordSet request)
    ∃ places : List Nat, places.Nodup ∧ places.length = min limit sharing.length ∧
      (suggest entries request limit).map (fun found ↦ some (found.aliasId, found.description)) =
        places.map fun i ↦ sharing[i]?.map fun entry ↦
          (entry.id, entry.definition.displayDescription) := by
  intro sharing
  have hcandidates := overlapping_eq Arithmetic.double entries (Keyword.keywordSet request)
  have hrank := map_some_rank Arithmetic.double entries (Keyword.keywordSet request) limit
  refine ⟨(sortedPlaces (Ranked.before Arithmetic.double) (overlapping Arithmetic.double entries
    (Keyword.keywordSet request))).take limit, ?_, ?_, ?_⟩
  · exact (nodup_sortedPlaces _ _).sublist (List.take_sublist _ _)
  · rw [List.length_take, length_sortedPlaces, hcandidates, List.length_map]
  · have hmapped := congrArg (List.map (Option.map fun ranked : Ranked Float ↦
      (ranked.entry.id, ranked.entry.definition.displayDescription))) hrank
    rw [List.map_map, List.map_map] at hmapped
    rw [suggest, List.map_map]
    refine Eq.trans hmapped (List.map_congr_left fun i _ ↦ ?_)
    rw [Function.comp_apply, hcandidates, List.getElem?_map, Option.map_map]
    rfl

/-- **Suggestions are the best candidates.** In exact arithmetic the comparison is that of a linear
order, every score of a candidate has a positive denominator and is the part of its keywords that
the request covers, and the ranking for a limit lists the places of the best candidates. A larger
limit only adds to the end. In doubles, too, the suggestions belong to distinct candidates, are as
many as there are and are wanted, and grow at the end. -/
theorem rank_isTop (entries : List Entry) (request : String) :
    let keywords := Keyword.keywordSet request
    let bags := entries.map (·.keywords)
    let sharing := entries.filter fun entry ↦ entry.Shares keywords
    let exact := Arithmetic.exact Real.log
    let candidates : List (Ranked ℝ) := sharing.map fun entry ↦
      ⟨entry, KeywordWeights.coverage Real.log bags keywords entry.keywords⟩
    (∀ a b : Ranked ℝ, Ranked.before exact a b = true ↔ standing a ≤ standing b) ∧
    (∀ entry ∈ sharing, 0 < (KeywordWeights.ofBags bags).totalWeight exact entry.keywords) ∧
    (∀ limit, ∃ places, IsTop standing candidates limit places ∧
      (rank exact entries keywords limit).map some = places.map (candidates[·]?)) ∧
    (∀ limit larger, limit ≤ larger →
      rank exact entries keywords limit <+: rank exact entries keywords larger) ∧
    (∀ limit, ∃ places : List Nat, places.Nodup ∧ places.length = min limit sharing.length ∧
      (suggest entries request limit).map (fun found ↦ some (found.aliasId, found.description)) =
        places.map fun i ↦ sharing[i]?.map fun entry ↦
          (entry.id, entry.definition.displayDescription)) ∧
    ∀ limit larger, limit ≤ larger →
      suggest entries request limit <+: suggest entries request larger := by
  intro keywords bags sharing exact candidates
  have hlog : ∀ x : ℝ, 1 < x → 0 < Real.log x := fun x ↦ Real.log_pos
  have hbefore : ∀ a b : Ranked ℝ, Ranked.before exact a b = true ↔ standing a ≤ standing b :=
    before_iff fun x y ↦ Arithmetic.lt_exact_iff
  have hcandidates : overlapping exact entries keywords = candidates := by
    rw [overlapping_eq]
    refine List.map_congr_left fun entry _ ↦ ?_
    rw [KeywordWeights.score_ofBags bags hlog]
  refine ⟨hbefore, ?_, ?_, ?_, exists_places_suggest entries request, ?_⟩
  · intro entry hentry
    obtain ⟨keyword, hkeyword, -⟩ := of_decide_eq_true (List.mem_filter.mp hentry).2
    exact KeywordWeights.totalWeight_ofBags_pos bags hlog ⟨keyword, hkeyword⟩
  · intro limit
    refine ⟨_, isTop_take_sortedPlaces hbefore candidates limit, ?_⟩
    rw [map_some_rank, hcandidates]
  · intro limit larger h
    exact rank_isPrefix exact entries keywords h
  · intro limit larger h
    exact (rank_isPrefix Arithmetic.double entries keywords h).map suggestionOf

end Routing

end Phrasebook
