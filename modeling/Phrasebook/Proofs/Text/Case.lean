import Mathlib.Data.List.Forall2
import Phrasebook.Text.Alphanumeric
import Phrasebook.Text.Blank
import Phrasebook.Text.Folding
import Phrasebook.Text.Lowercase

/-!
# The case of ASCII letters

Three notions of case meet when a request is answered: folding when it is matched, a comparison of
ASCII letters when an opener is looked for, and lowercasing when its keywords are taken. Each of
them is blind to the case of an ASCII letter, and so is every property of characters that is asked
for on the way. That a letter may have neighbours is no matter for the first two, and lowercasing
looks only at properties of them.

## Capitals

What is blind to the case of an ASCII letter is blind to 26 capitals. `eq_toLower` reduces such a
property of all characters to a look at each of these.

## Places

Texts that differ in the case of ASCII letters are cut in the same way. `SamePlace` says so of two
parts: they start at the same character and have the same length.
-/

namespace Phrasebook.Text

/-! ## Characters -/

/-- The capital letters of ASCII. -/
def capitals : List Char := (List.range' 65 26).map Char.ofNat

theorem toLower_eq_self_or_mem_capitals (c : Char) : c.toLower = c ∨ c ∈ capitals := by
  by_cases h : c.val ≥ 'A'.val ∧ c.val ≤ 'Z'.val
  · right
    have hcode : 65 ≤ c.toNat ∧ c.toNat ≤ 90 := h
    refine List.mem_map.mpr ⟨c.toNat, List.mem_range'_1.mpr (by omega), Char.ofNat_toNat c⟩
  · left
    exact dif_neg h

/-- What does not tell a capital from its small letter does not see case at all. -/
theorem eq_toLower {β : Type} (f : Char → β)
    (h : (capitals.map fun c ↦ f c.toLower) = capitals.map f) (c : Char) : f c.toLower = f c := by
  rcases toLower_eq_self_or_mem_capitals c with hself | hcapital
  · rw [hself]
  · exact List.map_inj_left.mp h c hcapital

@[simp] theorem isBlank_toLower (c : Char) : isBlank c.toLower = isBlank c :=
  eq_toLower isBlank (by decide) c

@[simp] theorem isAlphanumeric_toLower (c : Char) : isAlphanumeric c.toLower = isAlphanumeric c :=
  eq_toLower isAlphanumeric (by decide) c

@[simp] theorem isCased_toLower (c : Char) : isCased c.toLower = isCased c :=
  eq_toLower isCased (by decide) c

@[simp] theorem isCaseIgnorable_toLower (c : Char) :
    isCaseIgnorable c.toLower = isCaseIgnorable c := eq_toLower isCaseIgnorable (by decide) c

@[simp] theorem fold_toLower (c : Char) : fold c.toLower = fold c := eq_toLower fold (by decide) c

@[simp] theorem lowercaseChar_toLower (c : Char) : lowercaseChar c.toLower = lowercaseChar c :=
  eq_toLower lowercaseChar (by decide) c

theorem toLower_eq_sigma_iff (c : Char) : c.toLower = 'Σ' ↔ c = 'Σ' := by
  have h := eq_toLower (fun c ↦ decide (c = 'Σ')) (by decide) c
  exact decide_eq_decide.mp h

/-! ## Texts -/

/-- The texts differ at most in the case of ASCII letters. -/
def CaseVariant (first second : List Char) : Prop :=
  first.map Char.toLower = second.map Char.toLower

instance (first second : List Char) : Decidable (CaseVariant first second) :=
  inferInstanceAs (Decidable (_ = _))

/-- The parts start at the same character of the two texts and have the same length. -/
def SamePlace (first second part other : List Char) : Prop :=
  ∃ start size, part = (first.drop start).take size ∧ other = (second.drop start).take size

variable {first second part other : List Char}

/-- Elementwise agreement of what `f` makes of two lists, said of the lists. -/
theorem forall₂_image_iff {α β : Type} (f : α → β) {xs ys : List α} :
    List.Forall₂ (fun a b ↦ f a = f b) xs ys ↔ xs.map f = ys.map f := by
  rw [← List.forall₂_eq_eq_eq, List.forall₂_map_left_iff, List.forall₂_map_right_iff]

theorem SamePlace.trans {inner inner' : List Char} (h : SamePlace first second part other)
    (hinner : SamePlace part other inner inner') : SamePlace first second inner inner' := by
  obtain ⟨start, size, rfl, rfl⟩ := h
  obtain ⟨offset, length, rfl, rfl⟩ := hinner
  refine ⟨start + offset, min length (size - offset), ?_, ?_⟩
  · rw [List.drop_take, List.take_take, List.drop_drop]
  · rw [List.drop_take, List.take_take, List.drop_drop]

theorem samePlace_take (first second : List Char) (n : Nat) :
    SamePlace first second (first.take n) (second.take n) := ⟨0, n, rfl, rfl⟩

namespace CaseVariant

theorem symm (h : CaseVariant first second) : CaseVariant second first := Eq.symm h

theorem length_eq (h : CaseVariant first second) : first.length = second.length := by
  rw [← List.length_map Char.toLower, h, List.length_map]

theorem eq_nil_iff (h : CaseVariant first second) : first = [] ↔ second = [] := by
  rw [← List.length_eq_zero_iff, h.length_eq, List.length_eq_zero_iff]

theorem reverse (h : CaseVariant first second) : CaseVariant first.reverse second.reverse := by
  rw [CaseVariant, List.map_reverse, List.map_reverse, h]

theorem drop (h : CaseVariant first second) (n : Nat) :
    CaseVariant (first.drop n) (second.drop n) := by
  rw [CaseVariant, List.map_drop, List.map_drop, h]

theorem take (h : CaseVariant first second) (n : Nat) :
    CaseVariant (first.take n) (second.take n) := by
  rw [CaseVariant, List.map_take, List.map_take, h]

theorem map_fold_eq (h : CaseVariant first second) : first.map fold = second.map fold := by
  have hmap : ∀ text : List Char, (text.map Char.toLower).map fold = text.map fold := by
    intro text
    rw [List.map_map]
    exact List.map_congr_left fun c _ ↦ fold_toLower c
  rw [← hmap, h, hmap]

theorem of_samePlace (h : CaseVariant first second) (hplace : SamePlace first second part other) :
    CaseVariant part other := by
  obtain ⟨start, size, rfl, rfl⟩ := hplace
  exact (h.drop start).take size

theorem dropWhile (h : CaseVariant first second) {p : Char → Bool}
    (hp : ∀ c : Char, p c.toLower = p c) :
    CaseVariant (first.dropWhile p) (second.dropWhile p) := by
  have hmap : ∀ text : List Char,
      (text.dropWhile p).map Char.toLower = (text.map Char.toLower).dropWhile p := by
    have hlower : p ∘ Char.toLower = p := funext hp
    intro text
    rw [List.dropWhile_map, hlower]
  rw [CaseVariant, hmap, hmap, h]

/-- A part is the whole of one text exactly if it is the whole of the other. -/
theorem eq_whole_iff (h : CaseVariant first second) (hplace : SamePlace first second part other) :
    part = first ↔ other = second := by
  have hlength := (h.of_samePlace hplace).length_eq
  obtain ⟨start, size, hpart, hother⟩ := hplace
  have hsublist : ∀ text : List Char, ((text.drop start).take size).Sublist text := fun text ↦
    (List.take_sublist _ _).trans (List.drop_sublist _ _)
  constructor
  · intro hwhole
    refine List.Sublist.eq_of_length (hother ▸ hsublist second) ?_
    rw [← hlength, hwhole, h.length_eq]
  · intro hwhole
    refine List.Sublist.eq_of_length (hpart ▸ hsublist first) ?_
    rw [hlength, hwhole, h.length_eq]

theorem samePlace_self (h : CaseVariant first second) : SamePlace first second first second := by
  refine ⟨0, first.length, (List.take_length).symm, ?_⟩
  rw [h.length_eq]
  exact List.take_length.symm

theorem samePlace_drop (h : CaseVariant first second) (n : Nat) :
    SamePlace first second (first.drop n) (second.drop n) := by
  refine ⟨n, first.length - n, ?_, ?_⟩
  · rw [← List.length_drop, List.take_length]
  · rw [h.length_eq, ← List.length_drop, List.take_length]

theorem samePlace_dropWhile (h : CaseVariant first second) {p : Char → Bool}
    (hp : ∀ c : Char, p c.toLower = p c) :
    SamePlace first second (first.dropWhile p) (second.dropWhile p) := by
  rw [List.suffix_iff_eq_drop.mp (first.dropWhile_suffix p),
    List.suffix_iff_eq_drop.mp (second.dropWhile_suffix p), (h.dropWhile hp).length_eq, h.length_eq]
  exact h.samePlace_drop _

/-! ## Trimming -/

theorem samePlace_trimEnd (h : CaseVariant first second) :
    SamePlace first second (trimEnd first) (trimEnd second) := by
  have htake : ∀ text : List Char, trimEnd text = text.take (trimEnd text).length := by
    intro text
    refine List.prefix_iff_eq_take.mp ?_
    rw [trimEnd, ← List.reverse_suffix, List.reverse_reverse]
    exact List.dropWhile_suffix isBlank
  have hlength : (trimEnd first).length = (trimEnd second).length := by
    rw [trimEnd, trimEnd, List.length_reverse, List.length_reverse]
    exact (h.reverse.dropWhile isBlank_toLower).length_eq
  rw [htake first, htake second, hlength]
  exact samePlace_take first second _

theorem samePlace_trimChars (h : CaseVariant first second) :
    SamePlace first second (trimChars first) (trimChars second) := by
  have hstart : SamePlace first second (trimStart first) (trimStart second) :=
    h.samePlace_dropWhile isBlank_toLower
  exact hstart.trans (h.of_samePlace hstart).samePlace_trimEnd

end CaseVariant

/-! ## Lowercase -/

theorem startsCased_map_toLower (text : List Char) :
    startsCased (text.map Char.toLower) = startsCased text := by
  rw [startsCased, startsCased, List.dropWhile_map, List.head?_map, Option.map_map]
  simp only [Function.comp_def, isCased_toLower, isCaseIgnorable_toLower]

/-- Lowercasing a capital that was made small already changes nothing, for itself and for the
letters around it. -/
theorem lowercaseAfter_map_toLower (before text : List Char) :
    lowercaseAfter (before.map Char.toLower) (text.map Char.toLower) =
      lowercaseAfter before text := by
  induction text generalizing before with
  | nil => rfl
  | cons c text ih =>
    rw [List.map_cons, lowercaseAfter, lowercaseAfter, ← List.map_cons, ih,
      startsCased_map_toLower, startsCased_map_toLower, lowercaseChar_toLower]
    simp only [toLower_eq_sigma_iff]

theorem CaseVariant.lowercase_eq (h : CaseVariant first second) :
    lowercase first = lowercase second := by
  rw [lowercase, lowercase, ← lowercaseAfter_map_toLower, h, lowercaseAfter_map_toLower]

end Phrasebook.Text
