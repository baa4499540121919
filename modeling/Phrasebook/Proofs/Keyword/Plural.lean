import Phrasebook.Proofs.Keyword.Stem

/-!
# Singulars and plurals

English forms a plural by one of three endings, and a stem takes an ending off. Where the two agree,
a word and its plural are the same keyword. They agree for most words: `stem_plural_eq_iff` says for
which, and `Misread` names the reasons for which they do not.

Every plural ends in `s`, so its stem follows `stemChars_append_s`. What the rules see in front of
that `s` is the word itself, the word with an `e`, or the word with `ie` for its `y`, and there is
one lemma for each. The rules know a plural only by its letters. So `movies` is read as the plural
of a word in `y`, `caches` as that of a word in `ch`, and `menus` as no plural.
-/

namespace Phrasebook.Keyword

/-! ## Plurals -/

/-- The endings after which a plural has `es`. -/
def hisses : List (List Char) := [['s'], ['x'], ['z'], ['s', 'h'], ['c', 'h']]

/-- The small letters that are no vowels. -/
def consonants : List Char :=
  ['b', 'c', 'd', 'f', 'g', 'h', 'j', 'k', 'l', 'm', 'n', 'p', 'q', 'r', 's', 't', 'v', 'w', 'x',
    'y', 'z']

/-- `plural` on characters. -/
def pluralChars (word : List Char) : List Char :=
  if hisses.any (endsWith word) then word ++ ['e', 's']
  else if consonants.any fun c ↦ endsWith word [c, 'y'] then word.dropLast ++ ['i', 'e', 's']
  else word ++ ['s']

/-- The regular plural of an English word. -/
def plural (word : String) : String := String.ofList (pluralChars word.toList)

example : ["box", "class", "reply", "day", "task"].map plural =
    ["boxes", "classes", "replies", "days", "tasks"] := by decide

/-- The words whose plural is not read as theirs. -/
inductive Misread (word : List Char) : Prop
  /-- The plural is too short for an ending to be taken off. -/
  | short (h : word.length ≤ 2)
  /-- `menus` is read as a singular, as `status` is. -/
  | afterU (h : ['u'] <:+ word)
  /-- `buses` is read as the plural of `buse`. -/
  | singleS (h : ['s'] <:+ word) (hss : ¬['s', 's'] <:+ word)
  /-- `movies` is read as the plural of `movy`. -/
  | afterIe (hlength : 4 ≤ word.length) (h : ['i', 'e'] <:+ word)
  /-- `caches` is read as the plural of `cach`. -/
  | afterSibilantE (hlength : 4 ≤ word.length) (h : EndsSibilantE word)

/-! ## The stem of a plural -/

variable {word : List Char}

theorem length_rdrop (word : List Char) (n : Nat) : (word.rdrop n).length = word.length - n := by
  rw [List.rdrop, List.length_take, Nat.min_eq_left (Nat.sub_le _ _)]

theorem ne_of_length_ne {other : List Char} (h : other.length ≠ word.length) : other ≠ word :=
  mt (congrArg List.length) h

/-- The plural of a word that takes an `s` alone. -/
theorem stemChars_append_s_eq_iff :
    stemChars (word ++ ['s']) = word ↔
      3 ≤ word.length ∧ ¬['s'] <:+ word ∧ ¬['u'] <:+ word ∧
        ¬(4 ≤ word.length ∧ ['i', 'e'] <:+ word) ∧ ¬(4 ≤ word.length ∧ EndsSibilantE word) := by
  rw [stemChars_append_s]
  split_ifs with hie hsibilant hplain
  · refine iff_of_false (ne_of_length_ne ?_) fun h ↦ h.2.2.2.1 hie
    rw [List.length_append, length_rdrop, List.length_singleton]
    omega
  · refine iff_of_false (ne_of_length_ne ?_) fun h ↦ h.2.2.2.2 hsibilant
    rw [length_rdrop]
    omega
  · exact iff_of_true rfl ⟨hplain.1, hplain.2.1, hplain.2.2, hie, hsibilant⟩
  · refine iff_of_false (ne_of_length_ne ?_) fun h ↦ hplain ⟨h.1, h.2.1, h.2.2.1⟩
    rw [List.length_append]
    exact Nat.succ_ne_self _

/-- The plural of a word that takes `es`. -/
theorem stemChars_append_es_eq_iff (h : ¬['i'] <:+ word) :
    stemChars (word ++ ['e', 's']) = word ↔ 3 ≤ word.length ∧ EndsSibilant word := by
  have hlength : (word ++ ['e']).length = word.length + 1 := List.length_append
  have hsplit : word ++ ['e', 's'] = (word ++ ['e']) ++ ['s'] := by rw [List.append_assoc]; rfl
  have hie : ¬(4 ≤ (word ++ ['e']).length ∧ ['i', 'e'] <:+ word ++ ['e']) := by
    rintro ⟨-, hboth⟩
    have hconcat : ['i'] ++ ['e'] <:+ word ++ ['e'] := hboth
    exact h (List.suffix_append_self_iff.mp hconcat)
  have hfits : 4 ≤ (word ++ ['e']).length ∧ EndsSibilantE (word ++ ['e']) ↔
      3 ≤ word.length ∧ EndsSibilant word := by
    rw [hlength, endsSibilantE_append_e, Nat.succ_le_succ_iff]
  rw [hsplit, stemChars_append_s, if_neg hie, rdrop_concat, ← hfits]
  split_ifs with hsibilant
  · exact iff_of_true rfl hsibilant
  · refine iff_of_false (ne_of_length_ne ?_) hsibilant
    rw [hlength]
    exact Nat.succ_ne_self _
  · refine iff_of_false (ne_of_length_ne ?_) hsibilant
    rw [List.length_append, hlength, List.length_singleton]
    omega

/-- The plural of a word that takes `ies` for its `y`. -/
theorem stemChars_append_ies_eq_iff (front : List Char) :
    stemChars (front ++ ['i', 'e', 's']) = front ++ ['y'] ↔ 2 ≤ front.length := by
  have hlength : (front ++ ['i', 'e']).length = front.length + 2 := List.length_append
  have hsplit : front ++ ['i', 'e', 's'] = (front ++ ['i', 'e']) ++ ['s'] := by
    rw [List.append_assoc]; rfl
  have hdrop : (front ++ ['i', 'e']).rdrop 2 = front := rdrop_append_length front ['i', 'e']
  rw [hsplit, stemChars_append_s, hlength, hdrop]
  by_cases hlong : 2 ≤ front.length
  · rw [if_pos ⟨Nat.add_le_add_right hlong 2, List.suffix_append front _⟩]
    exact iff_of_true rfl hlong
  · rw [if_neg fun h ↦ by omega, if_neg fun h ↦ by omega]
    refine iff_of_false ?_ hlong
    split_ifs
    · exact ne_of_length_ne (by simp)
    · exact ne_of_length_ne (by simp)

/-! ## Which words are misread -/

/-- A word ends in the last letter of each of its endings. -/
theorem getLast?_of_suffix {ending : List Char} (h : ending <:+ word) (hne : ending ≠ []) :
    word.getLast? = ending.getLast? := by
  obtain ⟨front, rfl⟩ := h
  exact List.getLast?_append_of_ne_nil front hne

theorem getLast?_of_singleton {c : Char} (h : [c] <:+ word) : word.getLast? = some c :=
  List.singleton_suffix_iff_getLast?_eq_some.mp h

/-- A word that takes `es` ends after a sibilant, unless it has a single `s`. -/
theorem endsSibilant_iff_of_hiss {hiss : List Char} (hmem : hiss ∈ hisses) (h : hiss <:+ word) :
    EndsSibilant word ↔ ¬(['s'] <:+ word ∧ ¬['s', 's'] <:+ word) := by
  constructor
  · rintro ⟨sound, hsound, hword⟩ ⟨hs, hss⟩
    have hdouble : ∀ sound ∈ sibilants,
        sound ≠ [] ∧ (some 's' = sound.getLast? → sound = ['s', 's']) := by decide
    obtain ⟨hne, heq⟩ := hdouble sound hsound
    refine hss (heq ?_ ▸ hword)
    rw [← getLast?_of_singleton hs, getLast?_of_suffix hword hne]
  · intro hsingle
    have hcases : ∀ hiss ∈ hisses, hiss ∈ sibilants ∨ hiss = ['s'] := by decide
    rcases hcases hiss hmem with hsound | rfl
    · exact ⟨hiss, hsound, h⟩
    · exact ⟨['s', 's'], by decide, not_not.mp fun hss ↦ hsingle ⟨h, hss⟩⟩

/-- Only its length and what stands before its last letter can make a word misread that ends neither
in `u` nor in `e`. -/
theorem misread_iff_of_getLast? (hu : word.getLast? ≠ some 'u') (he : word.getLast? ≠ some 'e') :
    Misread word ↔ word.length ≤ 2 ∨ (['s'] <:+ word ∧ ¬['s', 's'] <:+ word) := by
  constructor
  · rintro (hshort | hu' | ⟨hs, hss⟩ | ⟨-, hie⟩ | ⟨-, he'⟩)
    · exact .inl hshort
    · exact absurd (getLast?_of_singleton hu') hu
    · exact .inr ⟨hs, hss⟩
    · exact absurd (getLast?_of_singleton ((List.suffix_append ['i'] ['e']).trans hie)) he
    · exact absurd (getLast?_of_singleton (endsSibilantE_iff.mp he').1) he
  · rintro (hshort | ⟨hs, hss⟩)
    · exact .short hshort
    · exact .singleS hs hss

theorem stemChars_pluralChars_eq_iff : stemChars (pluralChars word) = word ↔ ¬Misread word := by
  rw [pluralChars]
  split_ifs with hhiss hy
  · obtain ⟨hiss, hmem, hsuffix⟩ := List.any_eq_true.mp hhiss
    rw [endsWith_iff] at hsuffix
    have hlast : ∀ hiss ∈ hisses, hiss ≠ [] ∧ hiss.getLast? ≠ some 'i' ∧
        hiss.getLast? ≠ some 'u' ∧ hiss.getLast? ≠ some 'e' := by decide
    obtain ⟨hne, hi, hu, he⟩ := hlast hiss hmem
    rw [← getLast?_of_suffix hsuffix hne] at hi hu he
    have hnot : ¬['i'] <:+ word := fun h ↦ hi (getLast?_of_singleton h)
    rw [stemChars_append_es_eq_iff hnot, endsSibilant_iff_of_hiss hmem hsuffix,
      misread_iff_of_getLast? hu he, not_or, Nat.not_le]
    exact Iff.rfl
  · obtain ⟨c, hc, hsuffix⟩ := List.any_eq_true.mp hy
    obtain ⟨front, rfl⟩ := endsWith_iff.mp hsuffix
    have hsplit : front ++ [c, 'y'] = (front ++ [c]) ++ ['y'] := by rw [List.append_assoc]; rfl
    have hword : (front ++ [c] ++ ['y']).getLast? = some 'y' := List.getLast?_concat
    have hlength : (front ++ [c] ++ ['y']).length = (front ++ [c]).length + 1 := List.length_append
    have hs : ¬['s'] <:+ front ++ [c] ++ ['y'] := fun h ↦ by
      cases hword.symm.trans (getLast?_of_singleton h)
    rw [hsplit, List.dropLast_concat, stemChars_append_ies_eq_iff,
      misread_iff_of_getLast? (by rw [hword]; decide) (by rw [hword]; decide), not_or, Nat.not_le,
      and_iff_left fun h ↦ hs h.1, hlength]
    exact Nat.succ_lt_succ_iff.symm
  · have hs : ¬['s'] <:+ word := fun hs ↦ hhiss (List.any_eq_true.mpr
      ⟨['s'], by decide, endsWith_iff.mpr hs⟩)
    rw [stemChars_append_s_eq_iff]
    constructor
    · rintro ⟨hlength, -, hu, hie, he⟩ (hshort | hu' | ⟨hs', -⟩ | ⟨hlong, hie'⟩ | ⟨hlong, he'⟩)
      · exact absurd hlength (Nat.not_le.mpr (Nat.lt_succ_of_le hshort))
      · exact hu hu'
      · exact hs hs'
      · exact hie ⟨hlong, hie'⟩
      · exact he ⟨hlong, he'⟩
    · intro h
      exact ⟨Nat.not_le.mp fun hshort ↦ h (.short hshort), hs,
        fun hu ↦ h (.afterU hu), fun hie ↦ h (.afterIe hie.1 hie.2),
        fun he ↦ h (.afterSibilantE he.1 he.2)⟩

/-- **The law and its exceptions.** The stem of a plural is the word itself, exactly if the word is
not one of those that are misread. -/
theorem stem_plural_eq_iff (word : String) :
    stem (plural word) = word ↔ ¬Misread word.toList := by
  rw [← stemChars_pluralChars_eq_iff, stem, plural, ← String.toList_inj, String.toList_ofList,
    String.toList_ofList]

/-- The words for which the law was made: small letters, and its own stem. -/
structure IsSingular (word : String) : Prop where
  small : ∀ c ∈ word.toList, c.isLower = true
  long : 2 ≤ word.length
  stem_eq : stem word = word

/-- Not every singular shares its stem with its plural. -/
theorem not_stem_plural_of_ie :
    ¬∀ word, IsSingular word → stem (plural word) = word := by
  intro h
  have hsmall : ("movie".toList.all Char.isLower) = true := by decide
  have hmovie : IsSingular "movie" := ⟨List.all_eq_true.mp hsmall, by decide, by decide⟩
  exact absurd (h "movie" hmovie) (by decide)

end Phrasebook.Keyword
