import Phrasebook.Text.Alphanumeric
import Phrasebook.Text.Blank
import Phrasebook.Text.Folding

/-!
# Blanks around a text

A blank is neither a letter nor a digit, so a word ends where one stands. That is a matter of two
tables of code points, and the table of blanks is short: `CodeRanges.points` lists what is in it,
and each of the points is looked up in the other table. In the same way no blank has a case: folding
neither changes a blank nor makes one.

Trimming then does what its name says. Blanks in front are dropped, and what was trimmed has none at
its ends. A text is trimmed already exactly if it has none there: `IsTight`.
-/

namespace Phrasebook.Text

/-! ## The points of a table -/

/-- The code points in some ranges. -/
def CodeRanges.points (ranges : CodeRanges) : List Nat :=
  ranges.flatMap fun (first, last) ↦ List.range' first (last + 1 - first)

theorem CodeRanges.mem_points_of_holds {ranges : CodeRanges} {n : Nat}
    (h : ranges.holds n = true) : n ∈ ranges.points := by
  fun_induction CodeRanges.holds ranges n with
  | case1 => cases h
  | case2 => cases h
  | case3 first last rest n hfirst hlast =>
    refine List.mem_flatMap.mpr ⟨(first, last), List.mem_cons_self, ?_⟩
    rw [List.mem_range'_1]
    omega
  | case4 first last rest n hfirst hlast ih =>
    rw [points, List.flatMap_cons]
    exact List.mem_append_right _ (ih h)

theorem isAlphanumeric_of_isBlank {c : Char} (h : isBlank c = true) : isAlphanumeric c = false := by
  have hpoints : ∀ n ∈ blankRanges.points,
      (if n < 0x10000 then alphanumericLow.holds n else alphanumericHigh.holds n) = false := by
    decide +kernel
  exact hpoints c.toNat (CodeRanges.mem_points_of_holds h)

/-! ## Blanks have no case -/

/-- A code point that the run moves. -/
structure CaseRun.Holds (run : CaseRun) (n : Nat) : Prop where
  first_le : run.first ≤ n
  le_last : n ≤ run.last
  stride : (n - run.first) % run.stride = 0

/-- A code point is its own image, or some run moves it. -/
theorem CaseRun.image_cases (runs : List CaseRun) (n : Nat) :
    image runs n = n ∨ ∃ run ∈ runs, run.Holds n ∧ image runs n = (n + run.shift).toNat := by
  induction runs with
  | nil => exact Or.inl rfl
  | cons run runs ih =>
    rw [image]
    split
    · exact Or.inl rfl
    · rename_i hfirst
      split
      · rename_i hlast
        exact Or.inr ⟨run, List.mem_cons_self, ⟨Nat.not_lt.mp hfirst, hlast.1, hlast.2⟩, rfl⟩
      · refine ih.imp_right ?_
        rintro ⟨other, hother, hmoved⟩
        exact ⟨other, List.mem_cons_of_mem run hother, hmoved⟩

theorem toNat_ofNat_of_isValidChar {n : Nat} (h : n.isValidChar) : (Char.ofNat n).toNat = n := by
  have hchar : Char.ofNat n = Char.ofNatAux n h := dif_pos h
  exact congrArg Char.toNat hchar

theorem toNat_ofNat_cases (n : Nat) : (Char.ofNat n).toNat = n ∨ (Char.ofNat n).toNat = 0 := by
  by_cases hvalid : n.isValidChar
  · exact Or.inl (toNat_ofNat_of_isValidChar hvalid)
  · have hchar : Char.ofNat n = Char.ofNat 0 := dif_neg hvalid
    exact Or.inr (congrArg Char.toNat hchar)

@[simp] theorem isBlank_fold (c : Char) : isBlank (fold c) = isBlank c := by
  -- the runs lie between the blanks, before and after they are moved
  have hruns : ∀ run ∈ foldingRuns, ∀ n ∈ blankRanges.points,
      ¬(run.first ≤ n ∧ n ≤ run.last) ∧
        ¬(run.first + run.shift ≤ n ∧ n ≤ run.last + run.shift) := by
    decide +kernel
  rcases CaseRun.image_cases foldingRuns c.toNat with hself | ⟨run, hrun, hholds, himage⟩
  · rw [fold, CaseRun.imageChar, hself, Char.ofNat_toNat]
  · have hc : isBlank c = false := by
      refine Bool.eq_false_iff.mpr fun hblank ↦ ?_
      exact (hruns run hrun _ (CodeRanges.mem_points_of_holds hblank)).1
        ⟨hholds.first_le, hholds.le_last⟩
    rw [hc, fold, CaseRun.imageChar, himage]
    refine Bool.eq_false_iff.mpr fun hblank ↦ ?_
    have hpoint := CodeRanges.mem_points_of_holds hblank
    rcases toNat_ofNat_cases (c.toNat + run.shift).toNat with hcode | hcode
    · have hmoved := (hruns run hrun _ hpoint).2
      rw [hcode] at hpoint hmoved
      have hpositive : ∀ n ∈ blankRanges.points, 0 < n := by decide
      have := hpositive _ hpoint
      have := hholds.first_le
      have := hholds.le_last
      omega
    · rw [hcode] at hpoint
      exact absurd hpoint (by decide)

theorem isBlank_eq_of_fold_eq {a b : Char} (h : fold a = fold b) : isBlank a = isBlank b := by
  rw [← isBlank_fold a, h, isBlank_fold]

/-! ## Trimming -/

theorem trimChars_append_of_blank {blanks : List Char} (h : ∀ c ∈ blanks, isBlank c = true)
    (text : List Char) : trimChars (blanks ++ text) = trimChars text := by
  rw [trimChars, trimStart, List.dropWhile_append_of_pos h, trimChars, trimStart]

/-- What was trimmed does not end with a blank. -/
theorem isBlank_getLast?_trimChars {text : List Char} :
    ∀ c ∈ (trimChars text).getLast?, isBlank c = false := by
  intro c hc
  rw [trimChars, trimEnd, List.getLast?_reverse] at hc
  have hhead := List.head?_dropWhile_not isBlank (trimStart text).reverse
  rwa [hc] at hhead

/-- Neither does it start with one. -/
theorem isBlank_head?_trimChars {text : List Char} :
    ∀ c ∈ (trimChars text).head?, isBlank c = false := by
  intro c hc
  have hstart : trimChars text <+: trimStart text := by
    rw [trimChars, trimEnd, ← List.reverse_suffix, List.reverse_reverse]
    exact List.dropWhile_suffix _
  obtain ⟨ending, hending⟩ := hstart
  have hhead := List.head?_dropWhile_not isBlank text
  rwa [← trimStart, ← hending, List.head?_append, hc, Option.some_or] at hhead

/-- The text neither starts nor ends with a blank. -/
def IsTight (text : List Char) : Prop :=
  (∀ c ∈ text.head?, isBlank c = false) ∧ ∀ c ∈ text.getLast?, isBlank c = false

theorem isTight_trimChars (text : List Char) : IsTight (trimChars text) :=
  ⟨isBlank_head?_trimChars, isBlank_getLast?_trimChars⟩

/-- Trimming leaves alone exactly what it leaves. -/
theorem trimChars_eq_self_iff {text : List Char} : trimChars text = text ↔ IsTight text :=
  ⟨fun h ↦ h ▸ isTight_trimChars text, fun h ↦ trimChars_eq_self h.1 h.2⟩

end Phrasebook.Text
