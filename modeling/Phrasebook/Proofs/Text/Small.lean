import Mathlib.Tactic.SplitIfs
import Phrasebook.Proofs.Text.Blank
import Phrasebook.Text.Lowercase

/-!
# Text in lower case

Lowercasing looks at the neighbours of a capital sigma and at no others, and no character is sent to
a capital. The second is a matter of the table. Its runs are too long to look up every code point
where it is sent, so the runs are compared: `CaseRun.spares` says of one that it sends nothing into
any of the others. So a text in lower case consists of characters that lowercasing leaves alone
wherever they stand (`IsSmall`), and so does every text that is put together from them.
-/

namespace Phrasebook.Text

/-- Lowercasing leaves the character alone, wherever it stands. -/
def IsSmall (c : Char) : Prop := lowercaseChar c = [c] ∧ c ≠ 'Σ'

instance : DecidablePred IsSmall := fun c ↦
  inferInstanceAs (Decidable (lowercaseChar c = [c] ∧ c ≠ 'Σ'))

/-! ## Where the runs send their code points -/

namespace CaseRun

/-- Where the run sends its first code point. -/
def low (run : CaseRun) : Nat := (run.first + run.shift).toNat

/-- Where the run sends its last code point. -/
def high (run : CaseRun) : Nat := (run.last + run.shift).toNat

/-- The run takes every second code point, or has only one. -/
def keepsParity (run : CaseRun) : Bool := run.stride == 2 || run.first == run.last

/-- The run sends nothing into the others: it ends before them, or starts behind them, or falls
between the code points of one that takes every second. -/
def spares (run : CaseRun) : List CaseRun → Bool
  | [] => true
  | other :: rest =>
    run.high < other.first ||
      ((other.last < run.low ||
        (run.keepsParity && other.stride == 2 && (run.low - other.first) % 2 == 1)) &&
        run.spares rest)

/-- All that lowercasing needs to know of a run: what it sends code points to are characters, and
neither a capital with a lowercase of two characters nor in one of the runs. -/
def settles (runs : List CaseRun) (run : CaseRun) : Bool :=
  0 ≤ run.first + run.shift && (run.high < 0xD800 || (0xDFFF < run.low && run.high < 0x110000)) &&
    (run.high < 'İ'.toNat || 'İ'.toNat < run.low) && run.spares runs

variable {run : CaseRun} {runs : List CaseRun} {n : Nat}

theorem image_eq_self_of_spares (h : run.spares runs = true) (hn : run.Holds n)
    (hpositive : 0 ≤ run.first + run.shift) :
    image runs (n + run.shift).toNat = (n + run.shift).toNat := by
  obtain ⟨hfirst, hlast, hstride⟩ := hn
  obtain ⟨start, hstart⟩ := Int.eq_ofNat_of_zero_le hpositive
  induction runs with
  | nil => rfl
  | cons other rest ih =>
    rw [spares, Bool.or_eq_true, decide_eq_true_iff, Bool.and_eq_true] at h
    rw [image]
    split_ifs with hbefore hwithin
    · rfl
    · rcases h with hend | ⟨hother, -⟩
      · rw [high] at hend
        omega
      · simp only [keepsParity, Bool.or_eq_true, Bool.and_eq_true, decide_eq_true_eq,
          beq_iff_eq] at hother
        rw [low] at hother
        rcases hother with hbehind | ⟨⟨hrun | hrun, hsecond⟩, hodd⟩
        · omega
        · rw [hsecond] at hwithin
          rw [hrun] at hstride
          omega
        · rw [hsecond] at hwithin
          omega
    · refine ih (h.resolve_left fun hend ↦ hbefore ?_).2
      rw [high] at hend
      omega

theorem of_settles (h : run.settles runs = true) (hn : run.Holds n) :
    (n + run.shift).toNat.isValidChar ∧ (n + run.shift).toNat ≠ 'İ'.toNat ∧
      image runs (n + run.shift).toNat = (n + run.shift).toNat := by
  simp only [settles, Bool.and_eq_true, Bool.or_eq_true, decide_eq_true_eq] at h
  obtain ⟨⟨⟨hpositive, hvalid⟩, hdotted⟩, hspares⟩ := h
  refine ⟨?_, ?_, image_eq_self_of_spares hspares hn hpositive⟩
  · obtain ⟨hfirst, hlast, -⟩ := hn
    rw [low, high] at hvalid
    rw [Nat.isValidChar]
    omega
  · obtain ⟨hfirst, hlast, -⟩ := hn
    rw [low, high] at hdotted
    omega

end CaseRun

theorem settles_lowercaseRuns : (lowercaseRuns.all (CaseRun.settles lowercaseRuns)) = true := by
  decide +kernel

theorem lowercaseChar_of_image_eq {c : Char} (hne : c ≠ 'İ')
    (h : CaseRun.image lowercaseRuns c.toNat = c.toNat) : lowercaseChar c = [c] := by
  rw [lowercaseChar, if_neg hne, CaseRun.imageChar, h, Char.ofNat_toNat]

theorem isSmall_of_mem_lowercaseChar {c d : Char} (hc : c ≠ 'Σ') (h : d ∈ lowercaseChar c) :
    IsSmall d := by
  by_cases hdotted : c = 'İ'
  · subst hdotted
    have hsmall : ((lowercaseChar 'İ').all fun d ↦ decide (IsSmall d)) = true := by decide
    exact of_decide_eq_true (List.all_eq_true.mp hsmall d h)
  · rw [lowercaseChar, if_neg hdotted, List.mem_singleton] at h
    subst h
    rcases CaseRun.image_cases lowercaseRuns c.toNat with hself | ⟨run, hrun, hholds, himage⟩
    · have hchar : CaseRun.imageChar lowercaseRuns c = c := by
        rw [CaseRun.imageChar, hself, Char.ofNat_toNat]
      rw [hchar]
      exact ⟨lowercaseChar_of_image_eq hdotted hself, hc⟩
    · obtain ⟨hvalid, hdot, hsettled⟩ := CaseRun.of_settles
        (List.all_eq_true.mp settles_lowercaseRuns run hrun) hholds
      have hcode : (CaseRun.imageChar lowercaseRuns c).toNat = (c.toNat + run.shift).toNat := by
        rw [CaseRun.imageChar, himage, toNat_ofNat_of_isValidChar hvalid]
      rw [← hcode] at hdot hsettled
      refine ⟨lowercaseChar_of_image_eq (fun heq ↦ hdot (congrArg Char.toNat heq)) hsettled, ?_⟩
      -- a capital sigma is not its own image
      intro hsigma
      rw [hsigma] at hsettled
      exact absurd hsettled (by decide)

/-! ## Texts -/

/-- A text in lower case is made of small characters. -/
theorem isSmall_of_mem_lowercase {text : List Char} : ∀ c ∈ lowercase text, IsSmall c := by
  have hafter : ∀ before : List Char, ∀ c ∈ lowercaseAfter before text, IsSmall c := by
    induction text with
    | nil => exact fun before c hc ↦ absurd hc List.not_mem_nil
    | cons d text ih =>
      intro before c hc
      rw [lowercaseAfter, List.mem_append] at hc
      refine hc.elim (fun hd ↦ ?_) (ih (d :: before) c)
      split_ifs at hd with hsigma hfinal
      · obtain rfl := List.mem_singleton.mp hd
        decide
      · obtain rfl := List.mem_singleton.mp hd
        decide
      · exact isSmall_of_mem_lowercaseChar hsigma hd
  exact hafter []

/-- Small characters make a text in lower case. -/
theorem lowercase_eq_self {text : List Char} (h : ∀ c ∈ text, IsSmall c) :
    lowercase text = text := by
  have hafter : ∀ before : List Char, lowercaseAfter before text = text := by
    induction text with
    | nil => exact fun before ↦ rfl
    | cons c text ih =>
      obtain ⟨⟨hc, hsigma⟩, htext⟩ := List.forall_mem_cons.mp h
      intro before
      rw [lowercaseAfter, if_neg hsigma, hc, ih htext, List.singleton_append]
  exact hafter []

end Phrasebook.Text
