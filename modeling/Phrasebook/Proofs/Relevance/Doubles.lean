import Phrasebook.Proofs.Double.Arithmetic
import Phrasebook.Proofs.Relevance.Exact

/-!
# Relevance in doubles

Scores are doubles, and doubles that are no numbers compare with nothing. One of them would leave
the order of suggestions to the sorting procedure. Here it is shown that there is none, for every
logarithm that keeps between zero and 1024 on finite arguments from one on.

Rounding makes no difference to this. What could do harm is an overflow: a weight is the logarithm
of a finite number, so no weight is infinite, and a sum of weights does not become infinite either,
since a large sum does not change when a weight is added. So a score is a quotient of two finite
numbers, and the denominator has been compared with zero.
-/

namespace Phrasebook

/-- Double precision with a logarithm of one's choice. -/
def Arithmetic.doubleWith (log : Float → Float) : Arithmetic Float :=
  { Arithmetic.double with log := log }

/-- What is known of the logarithm of doubles: for a finite number from one on it is not negative,
and since there is no finite double beyond the 1024th power of two it is not above 1024. -/
def LogBounded (log : Float → Float) : Prop :=
  ∀ x : Float, 1 ≤ x → x.isFinite = true → 0 ≤ log x ∧ log x ≤ 1024

namespace KeywordWeights

/-! ## Scores are numbers -/

open Double

variable {log : Float → Float} (hlog : LogBounded log) {bags : List NameSet}
  (hbags : bags.length < 2 ^ 64)

include hlog hbags

theorem within_weight (keyword : String) :
    Within (-42) ((ofBags bags).weight (Arithmetic.doubleWith log) keyword) := by
  have hcount : ∀ p : NameSet → Bool, max 1 (bags.countP p) < 2 ^ 64 := by
    intro p
    have hle := List.countP_le_length (p := p) (l := bags)
    omega
  have hpos : ∀ p : NameSet → Bool, max 1 (bags.countP p) ≠ 0 := by
    intro p
    omega
  have hargument := one_le_one_add_div (hpos fun bag ↦ !bag.isEmpty) (hpos (·.contains keyword))
    (hcount _) (hcount _)
  obtain ⟨hleast, hmost⟩ := hlog _ hargument.1 hargument.2
  rw [weight, frequency_ofBags, bags_ofBags]
  exact within_of_le hleast hmost

theorem within_totalWeight (keywords : NameSet) :
    Within 971 ((ofBags bags).totalWeight (Arithmetic.doubleWith log) keywords) := by
  have hzero : Within 971 (-0.0) := by
    have hunpack : (-0.0 : Float).toModel.unpack = .zero .negative := rfl
    rw [Within, hunpack]
    exact trivial
  rw [totalWeight]
  refine List.foldlRecOn keywords.toList _ hzero fun sum hsum keyword _ ↦ ?_
  exact hsum.add (within_weight hlog hbags keyword)

/-- **Every score is a number.** -/
theorem isNaN_score (request bag : NameSet) :
    ((ofBags bags).score (Arithmetic.doubleWith log) request bag).toModel.unpack.isNaN = false := by
  rw [score]
  split
  · rename_i hpos
    have hpositive : Float.ofNat 0 < (ofBags bags).totalWeight (Arithmetic.doubleWith log) bag :=
      of_decide_eq_true hpos
    exact isNaN_div_of_pos (within_totalWeight hlog hbags (bag.inter request))
      (within_totalWeight hlog hbags bag) hpositive
  · have hzero : (0 : Float).toModel.unpack = .zero .positive := rfl
    show (0 : Float).toModel.unpack.isNaN = false
    rw [hzero]
    rfl

end KeywordWeights

end Phrasebook
