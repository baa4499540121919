import Phrasebook.Names

/-!
# Relevance

How much of an alias a request covers. Keywords weigh by how rare they are among the aliases: one
that every alias has says less about the request than one that a single alias has. The relevance is
the weight of the keywords covered, as a part of the weight of all.

The computation is written over any arithmetic, so that what it computes can be told apart from the
rounding of doubles.
-/

namespace Phrasebook

/-- The numbers that weights and scores are computed with. `zero` is where sums start. -/
structure Arithmetic (R : Type) where
  zero : R
  ofNat : Nat → R
  add : R → R → R
  div : R → R → R
  log : R → R
  lt : R → R → Bool

/-- Double precision. A sum starts at the negative zero, which no addition changes. -/
def Arithmetic.double : Arithmetic Float where
  zero := -0.0
  ofNat := Float.ofNat
  add := (· + ·)
  div := (· / ·)
  log := Float.log
  lt := fun x y ↦ decide (x < y)

/-- How many bags of keywords there are, empty ones aside, and how many of them hold each
keyword. -/
structure KeywordWeights where
  bags : Nat
  frequencies : NameMap Nat

namespace KeywordWeights

/-- Counts one more bag. -/
def addBag (weights : KeywordWeights) (bag : NameSet) : KeywordWeights :=
  if bag.isEmpty then weights
  else ⟨weights.bags + 1, bag.toList.foldl (fun counts keyword ↦
    counts.insert keyword ((counts.get? keyword).getD 0 + 1)) weights.frequencies⟩

/-- The weights for a list of bags. -/
def ofBags (bags : List NameSet) : KeywordWeights := bags.foldl addBag ⟨0, ∅⟩

/-- The number of bags that hold `keyword`, where none counts as one. -/
def frequency (weights : KeywordWeights) (keyword : String) : Nat :=
  max 1 ((weights.frequencies.get? keyword).getD 1)

variable {R : Type} (arith : Arithmetic R)

/-- The weight of a keyword: `log (1 + n / k)` when `k` of `n` bags hold it. -/
def weight (weights : KeywordWeights) (keyword : String) : R :=
  arith.log (arith.add (arith.ofNat 1)
    (arith.div (arith.ofNat (max 1 weights.bags)) (arith.ofNat (weights.frequency keyword))))

/-- The sum of the weights of some keywords, added in their order. -/
def totalWeight (weights : KeywordWeights) (keywords : NameSet) : R :=
  keywords.toList.foldl (fun sum keyword ↦ arith.add sum (weights.weight arith keyword)) arith.zero

/-- The part of `bag` that `request` covers, by weight. -/
def score (weights : KeywordWeights) (request bag : NameSet) : R :=
  let total := weights.totalWeight arith bag
  if arith.lt (arith.ofNat 0) total then
    arith.div (weights.totalWeight arith (bag.inter request)) total
  else arith.ofNat 0

end KeywordWeights

end Phrasebook
