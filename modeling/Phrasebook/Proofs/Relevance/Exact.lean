import Mathlib.Algebra.Order.BigOperators.Group.List
import Mathlib.Analysis.SpecialFunctions.Log.Basic
import Mathlib.Data.List.Induction
import Phrasebook.Relevance

/-!
# Relevance in exact arithmetic

Weights and scores are computed over any arithmetic. Doubles round, and nothing is known of what
their logarithm does, so what the computation means is said over the real numbers. There a weight is
a formula in two counts, and a score is a quotient of two sums of weights.

## Counts

The frequencies are kept in a map that is brought up to date bag by bag and keyword by keyword.
`frequency_ofBags` turns the map into a count over the list of bags; from there on the map is gone.
Counts know neither the order of the bags nor the empty ones, so no weight or score depends on them.

## The logarithm

All that the sums need of the logarithm is that it is positive above one. A weight is the logarithm
of such a number, so a bag with a keyword has a positive weight, and the fallback for a score
without a denominator is never used for it.
-/

namespace Phrasebook

/-! ## Exact arithmetic -/

/-- The real numbers, with a logarithm of one's choice. -/
noncomputable def Arithmetic.exact (log : ℝ → ℝ) : Arithmetic ℝ where
  zero := 0
  ofNat := Nat.cast
  add := (· + ·)
  div := (· / ·)
  log := log
  lt := fun x y ↦ decide (x < y)

theorem Arithmetic.lt_exact_iff {log : ℝ → ℝ} {x y : ℝ} :
    (Arithmetic.exact log).lt x y = true ↔ x < y := decide_eq_true_iff

namespace KeywordWeights

/-! ## Counting bags -/

/-- Counting some names once more. -/
theorem get?_foldl_insert {names : List String} (h : names.Nodup) (counts : NameMap Nat)
    (keyword : String) :
    (names.foldl (fun counts name ↦ counts.insert name ((counts.get? name).getD 0 + 1))
        counts).get? keyword =
      if keyword ∈ names then some ((counts.get? keyword).getD 0 + 1)
      else counts.get? keyword := by
  induction names generalizing counts with
  | nil => simp
  | cons name names ih =>
    obtain ⟨hname, hnames⟩ := List.nodup_cons.mp h
    rw [List.foldl_cons, ih hnames]
    by_cases heq : keyword = name
    · -- the rest of the names leave it alone, since no name comes twice
      subst heq
      rw [if_neg hname, NameMap.get?_insert_self, if_pos List.mem_cons_self]
    · rw [NameMap.get?_insert_of_ne _ heq]
      simp [heq]

theorem get?_frequencies_addBag (weights : KeywordWeights) (bag : NameSet) (keyword : String) :
    (weights.addBag bag).frequencies.get? keyword =
      if keyword ∈ bag then some ((weights.frequencies.get? keyword).getD 0 + 1)
      else weights.frequencies.get? keyword := by
  rw [addBag]
  by_cases hempty : bag.isEmpty = true
  · have hnone : keyword ∉ bag := by
      rw [← NameSet.mem_toList, List.isEmpty_iff.mp hempty]
      exact List.not_mem_nil
    rw [if_pos hempty, if_neg hnone]
  · rw [if_neg hempty]
    exact get?_foldl_insert bag.nodup_toList _ _

theorem ofBags_append_singleton (bags : List NameSet) (bag : NameSet) :
    ofBags (bags ++ [bag]) = (ofBags bags).addBag bag := by
  rw [ofBags, ofBags, List.foldl_append, List.foldl_cons, List.foldl_nil]

theorem get?_frequencies_ofBags (bags : List NameSet) (keyword : String) :
    ((ofBags bags).frequencies.get? keyword).getD 0 = bags.countP (·.contains keyword) := by
  induction bags using List.reverseRecOn with
  | nil => rfl
  | append_singleton bags bag ih =>
    rw [ofBags_append_singleton, get?_frequencies_addBag, List.countP_append,
      List.countP_singleton, NameSet.contains]
    by_cases hmem : keyword ∈ bag
    · rw [if_pos hmem, decide_eq_true hmem, if_pos rfl, Option.getD_some, ih]
    · rw [if_neg hmem, decide_eq_false hmem, if_neg Bool.false_ne_true, Nat.add_zero, ih]

/-- The frequency of a keyword is the number of bags that hold it, where none counts as one. -/
theorem frequency_ofBags (bags : List NameSet) (keyword : String) :
    (ofBags bags).frequency keyword = max 1 (bags.countP (·.contains keyword)) := by
  rw [frequency, ← get?_frequencies_ofBags]
  cases (ofBags bags).frequencies.get? keyword with
  | none => rfl
  | some count => rfl

theorem bags_ofBags (bags : List NameSet) :
    (ofBags bags).bags = bags.countP fun bag ↦ !bag.isEmpty := by
  induction bags using List.reverseRecOn with
  | nil => rfl
  | append_singleton bags bag ih =>
    rw [ofBags_append_singleton, addBag, List.countP_append, List.countP_singleton, ← ih]
    cases bag.isEmpty with
    | true => rfl
    | false => rfl

/-! ## Bags that count -/

section

variable {bags others : List NameSet}

/-- A bag that holds a keyword is not empty, so leaving out the empty ones loses no holder. -/
theorem countP_contains_filter (keyword : String) :
    (bags.filter fun bag ↦ !bag.isEmpty).countP (·.contains keyword) =
      bags.countP (·.contains keyword) := by
  rw [List.countP_filter]
  refine List.countP_congr fun bag _ ↦ ?_
  rw [Bool.and_eq_true, Bool.not_eq_true']
  refine and_iff_left_of_imp fun hcontains ↦ ?_
  have hmem : keyword ∈ bag.toList := of_decide_eq_true hcontains
  rw [NameSet.isEmpty, List.isEmpty_eq_false_iff]
  exact List.ne_nil_of_mem hmem

variable {R : Type} (arith : Arithmetic R)

/-- A weight is made of counts, and empty bags are not counted. -/
theorem weight_congr
    (h : (bags.filter fun bag ↦ !bag.isEmpty).Perm (others.filter fun bag ↦ !bag.isEmpty))
    (keyword : String) :
    (ofBags bags).weight arith keyword = (ofBags others).weight arith keyword := by
  have hbags : (ofBags bags).bags = (ofBags others).bags := by
    rw [bags_ofBags, bags_ofBags, List.countP_eq_length_filter, List.countP_eq_length_filter,
      h.length_eq]
  have hfrequency : (ofBags bags).frequency keyword = (ofBags others).frequency keyword := by
    rw [frequency_ofBags, frequency_ofBags, ← countP_contains_filter, h.countP_eq,
      countP_contains_filter]
  rw [weight, weight, hbags, hfrequency]

/-- **Neither the order of the bags nor an empty bag matters to a score**, in any arithmetic. -/
theorem score_congr
    (h : (bags.filter fun bag ↦ !bag.isEmpty).Perm (others.filter fun bag ↦ !bag.isEmpty))
    (request bag : NameSet) :
    (ofBags bags).score arith request bag = (ofBags others).score arith request bag := by
  have htotal : ∀ keywords, (ofBags bags).totalWeight arith keywords =
      (ofBags others).totalWeight arith keywords := by
    intro keywords
    rw [totalWeight, totalWeight]
    simp only [weight_congr arith h]
  rw [score, score, htotal, htotal]

end

/-! ## Weights -/

section

variable (log : ℝ → ℝ) (bags : List NameSet)

/-- The weight of a keyword among some bags: `log (1 + n / k)` when `k` of the `n` bags with a
keyword hold it, where none counts as one. -/
noncomputable def rarity (keyword : String) : ℝ :=
  log (1 + (max 1 (bags.countP fun bag ↦ !bag.isEmpty) : ℕ) /
    (max 1 (bags.countP (·.contains keyword)) : ℕ))

theorem weight_ofBags (keyword : String) :
    (ofBags bags).weight (Arithmetic.exact log) keyword = rarity log bags keyword := by
  rw [weight, frequency_ofBags, bags_ofBags, rarity]
  simp [Arithmetic.exact]

theorem totalWeight_ofBags (keywords : NameSet) :
    (ofBags bags).totalWeight (Arithmetic.exact log) keywords =
      (keywords.toList.map (rarity log bags)).sum := by
  rw [totalWeight, List.sum_eq_foldl, List.foldl_map]
  simp only [weight_ofBags]
  rfl

/-- The part of a bag that a request covers, by weight. -/
noncomputable def coverage (request bag : NameSet) : ℝ :=
  ((bag.toList.filter fun keyword ↦ keyword ∈ request).map (rarity log bags)).sum /
    (bag.toList.map (rarity log bags)).sum

variable {log}

theorem rarity_pos (hlog : ∀ x, 1 < x → 0 < log x) (keyword : String) :
    0 < rarity log bags keyword := by
  apply hlog
  have hbags : (0 : ℝ) < (max 1 (bags.countP fun bag ↦ !bag.isEmpty) : ℕ) := by
    exact_mod_cast Nat.lt_of_lt_of_le Nat.zero_lt_one (Nat.le_max_left 1 _)
  have hholders : (0 : ℝ) < (max 1 (bags.countP (·.contains keyword)) : ℕ) := by
    exact_mod_cast Nat.lt_of_lt_of_le Nat.zero_lt_one (Nat.le_max_left 1 _)
  have hquotient := div_pos hbags hholders
  linarith

theorem totalWeight_ofBags_pos (hlog : ∀ x, 1 < x → 0 < log x) {keywords : NameSet}
    (h : ∃ keyword, keyword ∈ keywords) :
    0 < (ofBags bags).totalWeight (Arithmetic.exact log) keywords := by
  obtain ⟨keyword, hkeyword⟩ := h
  rw [totalWeight_ofBags]
  apply List.sum_pos
  · intro x hx
    obtain ⟨name, -, rfl⟩ := List.mem_map.mp hx
    exact rarity_pos bags hlog name
  · exact List.ne_nil_of_mem (List.mem_map_of_mem hkeyword)

/-- A score is the part of the bag that is covered. For a bag with a keyword the denominator is
positive, and both sides are zero for the empty bag. -/
theorem score_ofBags (hlog : ∀ x, 1 < x → 0 < log x) (request bag : NameSet) :
    (ofBags bags).score (Arithmetic.exact log) request bag = coverage log bags request bag := by
  have hinter : (bag.inter request).toList =
      bag.toList.filter fun keyword ↦ keyword ∈ request := rfl
  by_cases hbag : ∃ keyword, keyword ∈ bag
  · have htotal := totalWeight_ofBags_pos bags hlog hbag
    have hlt : (Arithmetic.exact log).lt ((Arithmetic.exact log).ofNat 0)
        ((ofBags bags).totalWeight (Arithmetic.exact log) bag) = true := by
      rw [Arithmetic.lt_exact_iff]
      simpa [Arithmetic.exact] using htotal
    rw [score, if_pos hlt, totalWeight_ofBags, totalWeight_ofBags, hinter]
    rfl
  · have hnil : bag.toList = [] := by
      rw [List.eq_nil_iff_forall_not_mem]
      exact fun keyword hkeyword ↦ hbag ⟨keyword, hkeyword⟩
    rw [score, totalWeight_ofBags, coverage, hnil]
    simp [Arithmetic.exact]

end

end KeywordWeights

end Phrasebook
