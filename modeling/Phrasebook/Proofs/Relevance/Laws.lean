import Mathlib.Algebra.BigOperators.Group.Finset.Basic
import Mathlib.Algebra.Order.BigOperators.Group.Finset
import Phrasebook.Proofs.Relevance.Exact

/-!
# The laws of weights and scores

What a score means to whoever reads it: a number from zero to one, zero when nothing is covered and
one when everything is, which grows with the request. And what a weight means: the fewer bags hold a
keyword, the more it weighs.

Of the logarithm only two things are used, and only above one, which is where all its arguments
are: that it is positive there, and that it increases strictly. The laws of scores need the first,
the law of weights the second.

A bag lists each of its keywords once. So sums over it are sums over a finite set, and a larger set
of keywords has the larger sum, strictly so because every weight is positive.
-/

namespace Phrasebook.KeywordWeights

variable {log : ℝ → ℝ} (bags : List NameSet)

/-! ## Weights -/

/-- **A keyword in fewer bags weighs more**, where none counts as one. -/
theorem rarity_lt_iff (hmono : StrictMonoOn log (Set.Ioi 1)) (keyword other : String) :
    rarity log bags keyword < rarity log bags other ↔
      max 1 (bags.countP (·.contains other)) < max 1 (bags.countP (·.contains keyword)) := by
  have hpos : ∀ count : ℕ, (0 : ℝ) < (max 1 count : ℕ) := by
    intro count
    exact_mod_cast Nat.lt_of_lt_of_le Nat.zero_lt_one (Nat.le_max_left 1 count)
  have habove : ∀ count : ℕ,
      1 + ((max 1 (bags.countP fun bag ↦ !bag.isEmpty) : ℕ) : ℝ) / (max 1 count : ℕ) ∈
        Set.Ioi (1 : ℝ) :=
    fun count ↦ lt_add_of_pos_right 1 (div_pos (hpos _) (hpos count))
  rw [rarity, rarity, hmono.lt_iff_lt (habove _) (habove _), add_lt_add_iff_left,
    div_lt_div_iff_of_pos_left (hpos _) (hpos _) (hpos _), Nat.cast_lt]

/-- There is always a keyword that no bag holds. -/
theorem exists_countP_contains_eq_zero :
    ∃ keyword, bags.countP (·.contains keyword) = 0 := by
  obtain ⟨keyword, hfresh⟩ :=
    Infinite.exists_notMem_finset (bags.flatMap NameSet.toList).toFinset
  refine ⟨keyword, List.countP_eq_zero.mpr fun bag hbag hcontains ↦ hfresh ?_⟩
  rw [List.mem_toFinset, List.mem_flatMap]
  exact ⟨bag, hbag, of_decide_eq_true hcontains⟩

/-- The weight is greatest exactly for the keywords in at most one bag. -/
theorem forall_rarity_le_iff (hmono : StrictMonoOn log (Set.Ioi 1)) (keyword : String) :
    (∀ other, rarity log bags other ≤ rarity log bags keyword) ↔
      bags.countP (·.contains keyword) ≤ 1 := by
  simp only [← not_lt, rarity_lt_iff bags hmono]
  constructor
  · intro hgreatest
    obtain ⟨fresh, hfresh⟩ := exists_countP_contains_eq_zero bags
    have hleast := hgreatest fresh
    rw [hfresh] at hleast
    omega
  · intro hone other
    omega

/-! ## Sums of weights -/

variable (log) in
/-- What some keywords weigh together. -/
noncomputable def mass (keywords : NameSet) : ℝ :=
  ∑ keyword ∈ keywords.toList.toFinset, rarity log bags keyword

theorem coverage_eq (request bag : NameSet) :
    coverage log bags request bag = mass log bags (bag.inter request) / mass log bags bag := by
  rw [coverage, mass, mass, List.sum_toFinset _ bag.nodup_toList,
    List.sum_toFinset _ (bag.inter request).nodup_toList]
  rfl

section

variable (hpos : ∀ x, 1 < x → 0 < log x)

include hpos

theorem mass_pos_iff {keywords : NameSet} :
    0 < mass log bags keywords ↔ ∃ keyword, keyword ∈ keywords := by
  constructor
  · intro h
    by_contra hnone
    have hempty : keywords.toList.toFinset = ∅ :=
      Finset.eq_empty_of_forall_notMem fun keyword hkeyword ↦
        hnone ⟨keyword, List.mem_toFinset.mp hkeyword⟩
    rw [mass, hempty, Finset.sum_empty] at h
    exact h.false
  · rintro ⟨keyword, hkeyword⟩
    exact Finset.sum_pos (fun other _ ↦ rarity_pos bags hpos other)
      ⟨keyword, List.mem_toFinset.mpr hkeyword⟩

theorem mass_nonneg (keywords : NameSet) : 0 ≤ mass log bags keywords :=
  Finset.sum_nonneg fun keyword _ ↦ (rarity_pos bags hpos keyword).le

theorem mass_mono {fewer more : NameSet} (h : ∀ keyword ∈ fewer, keyword ∈ more) :
    mass log bags fewer ≤ mass log bags more := by
  apply Finset.sum_le_sum_of_subset_of_nonneg
  · exact fun keyword hkeyword ↦
      List.mem_toFinset.mpr (h keyword (List.mem_toFinset.mp hkeyword))
  · exact fun keyword _ _ ↦ (rarity_pos bags hpos keyword).le

/-- A keyword that is left out is missed in the sum. -/
theorem mass_lt {fewer more : NameSet} (h : ∀ keyword ∈ fewer, keyword ∈ more) {keyword : String}
    (hmem : keyword ∈ more) (hmissing : keyword ∉ fewer) :
    mass log bags fewer < mass log bags more := by
  apply Finset.sum_lt_sum_of_subset (i := keyword)
  · exact fun other hother ↦ List.mem_toFinset.mpr (h other (List.mem_toFinset.mp hother))
  · exact List.mem_toFinset.mpr hmem
  · exact fun hfewer ↦ hmissing (List.mem_toFinset.mp hfewer)
  · exact rarity_pos bags hpos keyword
  · exact fun other _ _ ↦ (rarity_pos bags hpos other).le

/-! ## Scores -/

theorem coverage_mem_Icc (request bag : NameSet) :
    0 ≤ coverage log bags request bag ∧ coverage log bags request bag ≤ 1 := by
  have hle : mass log bags (bag.inter request) ≤ mass log bags bag :=
    mass_mono bags hpos fun keyword hkeyword ↦ (NameSet.mem_inter.mp hkeyword).1
  rw [coverage_eq]
  exact ⟨div_nonneg (mass_nonneg bags hpos _) (mass_nonneg bags hpos _),
    div_le_one_of_le₀ hle (mass_nonneg bags hpos _)⟩

theorem coverage_pos_iff (request bag : NameSet) :
    0 < coverage log bags request bag ↔ ∃ keyword ∈ bag, keyword ∈ request := by
  have hcommon : 0 < mass log bags (bag.inter request) ↔ ∃ keyword ∈ bag, keyword ∈ request := by
    simp only [mass_pos_iff bags hpos, NameSet.mem_inter]
  rw [coverage_eq, ← hcommon]
  constructor
  · intro h
    by_contra hnone
    rw [le_antisymm (not_lt.mp hnone) (mass_nonneg bags hpos _), zero_div] at h
    exact h.false
  · intro h
    obtain ⟨keyword, hkeyword, -⟩ := hcommon.mp h
    exact div_pos h ((mass_pos_iff bags hpos).mpr ⟨keyword, hkeyword⟩)

theorem coverage_eq_one_iff (request bag : NameSet) :
    coverage log bags request bag = 1 ↔
      (∃ keyword, keyword ∈ bag) ∧ ∀ keyword ∈ bag, keyword ∈ request := by
  rw [coverage_eq]
  by_cases hbag : ∃ keyword, keyword ∈ bag
  · have htotal : 0 < mass log bags bag := (mass_pos_iff bags hpos).mpr hbag
    rw [div_eq_one_iff_eq htotal.ne', and_iff_right hbag]
    constructor
    · intro hmass keyword hkeyword
      by_contra hmissing
      refine (mass_lt bags hpos (fun other hother ↦ (NameSet.mem_inter.mp hother).1) hkeyword ?_).ne
        hmass
      exact fun hinter ↦ hmissing (NameSet.mem_inter.mp hinter).2
    · intro hcovered
      congr 1
      refine NameSet.ext fun keyword ↦ ?_
      rw [NameSet.mem_inter]
      exact and_iff_left_of_imp (hcovered keyword)
  · -- without a denominator the score is zero
    have hzero : mass log bags bag = 0 :=
      le_antisymm (not_lt.mp (mt (mass_pos_iff bags hpos).mp hbag)) (mass_nonneg bags hpos _)
    rw [hzero, div_zero]
    exact iff_of_false zero_ne_one fun h ↦ hbag h.1

theorem coverage_mono {request larger : NameSet} (h : ∀ keyword ∈ request, keyword ∈ larger)
    (bag : NameSet) : coverage log bags request bag ≤ coverage log bags larger bag := by
  rw [coverage_eq, coverage_eq]
  refine div_le_div_of_nonneg_right (mass_mono bags hpos fun keyword hkeyword ↦ ?_)
    (mass_nonneg bags hpos bag)
  obtain ⟨hbag, hrequest⟩ := NameSet.mem_inter.mp hkeyword
  exact NameSet.mem_inter.mpr ⟨hbag, h keyword hrequest⟩

end

/-- **The laws of weights and scores**, in exact arithmetic with any logarithm that is positive and
strictly increasing above one.

Weights are positive. Of two keywords the one in fewer bags weighs more, where none counts as one,
so the weight is greatest for the keywords in at most one bag. A score lies between zero and one. It
is zero exactly if the bag and the request have nothing in common, and one exactly if the bag is not
empty and the request has all of it, and a larger request has no smaller score. Last, in whatever
arithmetic they are computed, weights and scores do not depend on the order of the bags or on empty
ones among them. -/
theorem score_lawful (hmono : StrictMonoOn log (Set.Ioi 1)) (hpos : ∀ x, 1 < x → 0 < log x)
    (bags : List NameSet) :
    let weight := (ofBags bags).weight (Arithmetic.exact log)
    let score := (ofBags bags).score (Arithmetic.exact log)
    let holders := fun keyword : String ↦ bags.countP (·.contains keyword)
    (∀ keyword, 0 < weight keyword) ∧
    (∀ keyword other,
      weight keyword < weight other ↔ max 1 (holders other) < max 1 (holders keyword)) ∧
    (∀ keyword, (∀ other, weight other ≤ weight keyword) ↔ holders keyword ≤ 1) ∧
    (∀ request bag, 0 ≤ score request bag ∧ score request bag ≤ 1) ∧
    (∀ request bag, score request bag = 0 ↔ ¬∃ keyword ∈ bag, keyword ∈ request) ∧
    (∀ request bag, score request bag = 1 ↔
      (∃ keyword, keyword ∈ bag) ∧ ∀ keyword ∈ bag, keyword ∈ request) ∧
    (∀ request larger bag, (∀ keyword ∈ request, keyword ∈ larger) →
      score request bag ≤ score larger bag) ∧
    ∀ {R : Type} (arith : Arithmetic R) (others : List NameSet),
      (bags.filter fun bag ↦ !bag.isEmpty).Perm (others.filter fun bag ↦ !bag.isEmpty) →
        (∀ keyword, (ofBags bags).weight arith keyword = (ofBags others).weight arith keyword) ∧
        ∀ request bag,
          (ofBags bags).score arith request bag = (ofBags others).score arith request bag := by
  intro weight score holders
  have hweight : ∀ keyword, weight keyword = rarity log bags keyword := weight_ofBags log bags
  have hscore : ∀ request bag, score request bag = coverage log bags request bag :=
    score_ofBags bags hpos
  simp only [hweight, hscore]
  refine ⟨rarity_pos bags hpos, rarity_lt_iff bags hmono, forall_rarity_le_iff bags hmono,
    coverage_mem_Icc bags hpos, fun request bag ↦ ?_, coverage_eq_one_iff bags hpos,
    fun request larger bag h ↦ coverage_mono bags hpos h bag, fun arith others h ↦ ?_⟩
  · rw [← coverage_pos_iff bags hpos, not_lt]
    exact ((coverage_mem_Icc bags hpos request bag).1.ge_iff_eq').symm
  · exact ⟨weight_congr arith h, score_congr arith h⟩

/-- One bag is empty, one keyword is in three bags and one in none, and the request asks for more
than the bag has. -/
theorem score_lawful_of_unseen :
    let bags := [NameSet.ofList ["add", "task"], ∅, NameSet.ofList ["task"],
      NameSet.ofList ["renewal", "task"]]
    let weight := (ofBags bags).weight (Arithmetic.exact Real.log)
    let score := (ofBags bags).score (Arithmetic.exact Real.log)
    (StrictMonoOn Real.log (Set.Ioi 1) ∧ ∀ x : ℝ, 1 < x → 0 < Real.log x) ∧
    weight "task" < weight "renewal" ∧ (∀ other, weight other ≤ weight "unseen") ∧
    score (NameSet.ofList ["now", "task", "add"]) (NameSet.ofList ["add", "task"]) = 1 ∧
    score (NameSet.ofList ["unseen"]) (NameSet.ofList ["add", "task"]) = 0 := by
  intro bags weight score
  have hmono : StrictMonoOn Real.log (Set.Ioi 1) :=
    Real.strictMonoOn_log.mono (Set.Ioi_subset_Ioi zero_le_one)
  have hpos : ∀ x : ℝ, 1 < x → 0 < Real.log x := fun x ↦ Real.log_pos
  obtain ⟨-, hrare, hgreatest, -, hzero, hone, -⟩ := score_lawful hmono hpos bags
  refine ⟨⟨hmono, hpos⟩, ?_, ?_, ?_, ?_⟩
  · exact (hrare "task" "renewal").mpr (by decide +kernel)
  · exact (hgreatest "unseen").mpr (by decide +kernel)
  · exact (hone _ _).mpr ⟨⟨"add", by simp⟩, by simp⟩
  · exact (hzero _ _).mpr (by simp)

end Phrasebook.KeywordWeights
