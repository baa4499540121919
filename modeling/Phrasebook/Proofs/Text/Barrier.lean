import Phrasebook.Proofs.Text.Small

/-!
# Lowercase on both sides of a blank

The lowercase of a character depends on others only if it is a capital sigma, and then on the
nearest ones, before and behind it, that are not case-ignorable. A character that is not
case-ignorable itself hides all that lies beyond it. If it has no case either, then what stands on
one side of it reads as if the text ended there (`IsBarrier`), and the lowercase of the whole is put
together from the lowercase of both sides: `lowercase_append`.

Blanks are barriers. Not all that ends a word is one: a colon is case-ignorable, and the sigma of
`ΑΣ:Β` is not final, although the word is over.
-/

namespace Phrasebook.Text

/-- Lowercasing does not look past the character, and leaves it as it is. -/
structure IsBarrier (c : Char) : Prop where
  notCased : isCased c = false
  notIgnorable : isCaseIgnorable c = false
  small : IsSmall c

theorem isBarrier_of_isBlank {c : Char} (h : isBlank c = true) : IsBarrier c := by
  have hpoints : ∀ n ∈ blankRanges.points,
      casedRanges.holds n = false ∧ caseIgnorableRanges.holds n = false ∧
        CaseRun.image lowercaseRuns n = n := by
    decide +kernel
  obtain ⟨hcased, hignorable, himage⟩ := hpoints c.toNat (CodeRanges.mem_points_of_holds h)
  have hne : ∀ d, isBlank d = false → c ≠ d := by
    rintro d hd rfl
    exact Bool.false_ne_true (hd.symm.trans h)
  exact ⟨hcased, hignorable, lowercaseChar_of_image_eq (hne 'İ' (by decide)) himage,
    hne 'Σ' (by decide)⟩

namespace IsBarrier

variable {c : Char}

/-- What lies beyond a barrier is not seen. -/
theorem startsCased_append (h : IsBarrier c) (text rest : List Char) :
    startsCased (text ++ c :: rest) = startsCased text := by
  induction text with
  | nil =>
    -- the search ends at the barrier, and it ends without a cased character
    have hdrop : (c :: rest).dropWhile isCaseIgnorable = c :: rest := by
      rw [List.dropWhile_cons, h.notIgnorable, if_neg Bool.false_ne_true]
    rw [List.nil_append, startsCased, hdrop, List.head?_cons, Option.map_some, h.notCased]
    rfl
  | cons d text ih =>
    rw [startsCased, startsCased] at ih ⊢
    rw [List.cons_append, List.dropWhile_cons, List.dropWhile_cons]
    by_cases hd : isCaseIgnorable d = true
    · rw [if_pos hd, if_pos hd, ih]
    · rw [if_neg hd, if_neg hd]
      rfl

/-- Text behind a barrier is lowercased as if nothing were in front of it. -/
theorem lowercaseAfter_append_left (h : IsBarrier c) (before beyond text : List Char) :
    lowercaseAfter (before ++ c :: beyond) text = lowercaseAfter before text := by
  induction text generalizing before with
  | nil => rfl
  | cons d text ih =>
    rw [lowercaseAfter, lowercaseAfter, h.startsCased_append, ← ih (d :: before)]
    rfl

theorem lowercaseAfter_append_right (h : IsBarrier c) (before text rest : List Char) :
    lowercaseAfter before (text ++ c :: rest) =
      lowercaseAfter before text ++ c :: lowercase rest := by
  induction text generalizing before with
  | nil =>
    have hself : lowercaseAfter before (c :: rest) =
        [c] ++ lowercaseAfter ([] ++ c :: before) rest := by
      rw [lowercaseAfter, if_neg h.small.2, h.small.1]
      rfl
    rw [List.nil_append, hself, h.lowercaseAfter_append_left]
    rfl
  | cons d text ih =>
    rw [List.cons_append, lowercaseAfter, lowercaseAfter, h.startsCased_append, ih,
      List.append_assoc]

/-- **Both sides of a barrier are lowercased apart.** -/
theorem lowercase_append (h : IsBarrier c) (before after : List Char) :
    lowercase (before ++ c :: after) = lowercase before ++ c :: lowercase after :=
  h.lowercaseAfter_append_right [] before after

end IsBarrier

end Phrasebook.Text
