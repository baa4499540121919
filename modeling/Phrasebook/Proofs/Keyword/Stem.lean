import Mathlib.Data.List.DropRight
import Phrasebook.Keyword

/-!
# What is taken off a word

All the endings that a stem lacks end in `s`. So a word that does not end in `s` is its own stem,
and for a word that does the rules are about what stands in front of the `s`: `stemChars_append_s`
says them once, in the order in which they are tried.
-/

namespace Phrasebook.Keyword

theorem before?_eq_some_iff {ending word base : List Char} :
    before? ending word = some base ↔ base ++ ending = word :=
  List.isSuffixOf?_eq_some_iff_append_eq

theorem endsWith_iff {word ending : List Char} : endsWith word ending = true ↔ ending <:+ word :=
  List.isSuffixOf_iff_suffix

theorem endsWith_append_s (word ending : List Char) :
    endsWith (word ++ ['s']) (ending ++ ['s']) = true ↔ ending <:+ word := by
  rw [endsWith_iff, List.suffix_append_self_iff]

theorem rdrop_append_length (front back : List Char) :
    (front ++ back).rdrop back.length = front := by
  rw [List.rdrop, List.length_append, Nat.add_sub_cancel, List.take_left]

theorem rdrop_concat (front : List Char) (c : Char) : (front ++ [c]).rdrop 1 = front :=
  rdrop_append_length front [c]

/-- The word ends after a sibilant. -/
def EndsSibilant (word : List Char) : Prop := ∃ sound ∈ sibilants, sound <:+ word

/-- The word ends after a sibilant and an `e`. -/
def EndsSibilantE (word : List Char) : Prop := ∃ sound ∈ sibilants, sound ++ ['e'] <:+ word

instance : DecidablePred EndsSibilant := fun word ↦
  inferInstanceAs (Decidable (∃ sound ∈ sibilants, sound <:+ word))

instance : DecidablePred EndsSibilantE := fun word ↦
  inferInstanceAs (Decidable (∃ sound ∈ sibilants, sound ++ ['e'] <:+ word))

theorem any_endsWith_sibilants (word : List Char) :
    sibilants.any (endsWith word) = decide (EndsSibilant word) := by
  rw [Bool.eq_iff_iff, List.any_eq_true, decide_eq_true_iff]
  simp only [endsWith_iff, EndsSibilant]

theorem endsSibilantE_append_e {word : List Char} :
    EndsSibilantE (word ++ ['e']) ↔ EndsSibilant word := by
  simp only [EndsSibilantE, EndsSibilant, List.suffix_append_self_iff]

theorem endsSibilantE_iff {word : List Char} :
    EndsSibilantE word ↔ ['e'] <:+ word ∧ EndsSibilant (word.rdrop 1) := by
  constructor
  · rintro ⟨sound, hsound, front, rfl⟩
    have hdrop : (front ++ (sound ++ ['e'])).rdrop 1 = front ++ sound := by
      rw [← List.append_assoc, rdrop_concat]
    exact ⟨⟨front ++ sound, List.append_assoc ..⟩, sound, hsound, front, hdrop.symm⟩
  · rintro ⟨⟨front, rfl⟩, hfront⟩
    rw [rdrop_concat] at hfront
    exact endsSibilantE_append_e.mpr hfront

/-- What precedes an ending that has an `s` at its end, in a word that has one too. -/
theorem filter_before?_append_s (ending base : List Char) (fits : List Char → Bool) :
    (before? (ending ++ ['s']) (base ++ ['s'])).filter fits =
      if ending <:+ base ∧ fits (base.rdrop ending.length) = true
      then some (base.rdrop ending.length) else none := by
  by_cases hending : ending <:+ base
  · obtain ⟨front, rfl⟩ := hending
    have hbefore : before? (ending ++ ['s']) (front ++ ending ++ ['s']) = some front :=
      before?_eq_some_iff.mpr (List.append_assoc ..).symm
    rw [hbefore, rdrop_append_length, Option.filter_some]
    simp only [List.suffix_append, true_and]
  · have hbefore : before? (ending ++ ['s']) (base ++ ['s']) = none := by
      refine Option.eq_none_iff_forall_ne_some.mpr fun front hfront ↦ hending ⟨front, ?_⟩
      rw [before?_eq_some_iff, ← List.append_assoc] at hfront
      exact List.append_cancel_right hfront
    rw [hbefore, if_neg fun h ↦ hending h.1, Option.filter_none]

/-- **The rules**, for a word that ends in `s`. -/
theorem stemChars_append_s (base : List Char) :
    stemChars (base ++ ['s']) =
      if 4 ≤ base.length ∧ ['i', 'e'] <:+ base then base.rdrop 2 ++ ['y']
      else if 4 ≤ base.length ∧ EndsSibilantE base then base.rdrop 1
      else if 3 ≤ base.length ∧ ¬['s'] <:+ base ∧ ¬['u'] <:+ base then base
      else base ++ ['s'] := by
  have hlength : (base ++ ['s']).length = base.length + 1 := List.length_append
  have hies : (before? ['i', 'e', 's'] (base ++ ['s'])).filter
      (fun _ ↦ (base ++ ['s']).length > 4) =
      if 4 ≤ base.length ∧ ['i', 'e'] <:+ base then some (base.rdrop 2) else none := by
    refine (filter_before?_append_s ['i', 'e'] base _).trans (if_congr ?_ rfl rfl)
    rw [hlength, decide_eq_true_iff, and_comm]
    exact and_congr_left' Nat.lt_succ_iff
  have hes : (before? ['e', 's'] (base ++ ['s'])).filter
      (fun front ↦ (base ++ ['s']).length > 4 && sibilants.any (endsWith front)) =
      if 4 ≤ base.length ∧ EndsSibilantE base then some (base.rdrop 1) else none := by
    refine (filter_before?_append_s ['e'] base _).trans (if_congr ?_ rfl rfl)
    rw [hlength, any_endsWith_sibilants, Bool.and_eq_true, decide_eq_true_iff, decide_eq_true_iff,
      endsSibilantE_iff, and_left_comm]
    exact and_congr_left' Nat.lt_succ_iff
  have hs : (before? ['s'] (base ++ ['s'])).filter
      (fun _ ↦ (base ++ ['s']).length > 3 && !endsWith (base ++ ['s']) ['s', 's'] &&
        !endsWith (base ++ ['s']) ['u', 's']) =
      if 3 ≤ base.length ∧ ¬['s'] <:+ base ∧ ¬['u'] <:+ base then some base else none := by
    have hfront : some (base.rdrop 0) = some base := congrArg some (List.rdrop_zero base)
    refine (filter_before?_append_s [] base _).trans (if_congr ?_ hfront rfl)
    have hss : endsWith (base ++ ['s']) ['s', 's'] = true ↔ ['s'] <:+ base :=
      endsWith_append_s base ['s']
    have hus : endsWith (base ++ ['s']) ['u', 's'] = true ↔ ['u'] <:+ base :=
      endsWith_append_s base ['u']
    rw [hlength, Bool.and_eq_true, Bool.and_eq_true, decide_eq_true_iff, Bool.not_eq_true',
      Bool.not_eq_true', ← Bool.not_eq_true, ← Bool.not_eq_true, hss, hus,
      and_iff_right List.nil_suffix, and_assoc]
    exact and_congr_left' Nat.lt_succ_iff
  rw [stemChars, hies, hes, hs]
  split_ifs <;> rfl

/-- A word that does not end in `s` is its own stem. -/
theorem stemChars_eq_self {word : List Char} (h : ¬['s'] <:+ word) : stemChars word = word := by
  have hbefore : ∀ ending : List Char, before? (ending ++ ['s']) word = none := by
    refine fun ending ↦ Option.eq_none_iff_forall_ne_some.mpr fun front hfront ↦ h ?_
    exact ⟨front ++ ending, by rw [List.append_assoc, before?_eq_some_iff.mp hfront]⟩
  have hies := hbefore ['i', 'e']
  have hes := hbefore ['e']
  have hs := hbefore []
  simp only [List.cons_append, List.nil_append] at hies hes hs
  simp only [stemChars, hies, hes, hs, Option.filter_none]

/-- The word without some letters at its end, but not without all of them. -/
theorem rdrop_ne_nil {word : List Char} {n : Nat} (h : n < word.length) : word.rdrop n ≠ [] := by
  refine List.ne_nil_of_length_pos ?_
  rw [List.rdrop, List.length_take]
  omega

/-- A stem is the front of the word, or the front with a `y`. -/
theorem exists_front_stemChars {word : List Char} (h : word ≠ []) :
    ∃ front, front ≠ [] ∧ front <+: word ∧
      (stemChars word = front ∨ stemChars word = front ++ ['y']) := by
  by_cases hs : ['s'] <:+ word
  · obtain ⟨base, rfl⟩ := hs
    have hfront : ∀ n, base.rdrop n <+: base ++ ['s'] := fun n ↦
      (List.take_prefix _ base).trans (List.prefix_append base ['s'])
    rw [stemChars_append_s]
    split_ifs with hie hsibilant hplain
    · exact ⟨base.rdrop 2, rdrop_ne_nil (by omega), hfront 2, .inr rfl⟩
    · exact ⟨base.rdrop 1, rdrop_ne_nil (by omega), hfront 1, .inl rfl⟩
    · exact ⟨base, List.ne_nil_of_length_pos (by omega), List.prefix_append base ['s'], .inl rfl⟩
    · exact ⟨base ++ ['s'], h, List.prefix_rfl, .inl rfl⟩
  · exact ⟨word, h, List.prefix_rfl, .inl (stemChars_eq_self hs)⟩

end Phrasebook.Keyword
