import Mathlib.Data.List.Flatten
import Mathlib.Data.List.Forall2
import Mathlib.Data.List.Lex
import Phrasebook.Template.Cut

/-!
# Greedy cuts

There may be many ways to cut a text along a template. The one that is wanted gives the first
placeholder as much as possible, then the second, and so on: its pieces have the greatest lengths,
compared from the left. The search for it never tries a cut that fails, since it looks up in a table
whether the rest of the text can be cut along the rest of the template.

## What a table says

`Tabulates` says that the entry of a table at a position holds exactly when the text from that
position on can be cut. The tables are made from the last segment to the first, and each step
preserves this. What an entry of one table has to do with the entries of the next is said first, of
lists alone.
-/

namespace Phrasebook

open Phrasebook.Text

/-! ## Cuts -/

/-- The text that a segment can take: for a literal, as many characters as it has, each the same up
to case, and for a placeholder any text but the empty one. -/
def Segment.Fits : Segment → List Char → Prop
  | .literal text, piece => List.Forall₂ (fun a b ↦ fold a = fold b) text.toList piece
  | .placeholder _, piece => piece ≠ []

namespace Template

/-- The text is cut into one piece for each segment. -/
def Cuts (segments : List Segment) (pieces : List (List Char)) (text : List Char) : Prop :=
  List.Forall₂ Segment.Fits segments pieces ∧ pieces.flatten = text

/-- The text can be cut along the segments. -/
def CanCut (segments : List Segment) (text : List Char) : Prop :=
  ∃ pieces, Cuts segments pieces text

/-- A cut with the greatest lengths of all, compared from the left. -/
structure IsGreedy (segments : List Segment) (pieces : List (List Char)) (text : List Char) :
    Prop where
  cuts : Cuts segments pieces text
  greatest : ∀ other, Cuts segments other text → other.map List.length ≤ pieces.map List.length

theorem cuts_nil_iff {pieces : List (List Char)} {text : List Char} :
    Cuts [] pieces text ↔ pieces = [] ∧ text = [] := by
  constructor
  · rintro ⟨hfits, rfl⟩
    obtain rfl := List.forall₂_nil_left_iff.mp hfits
    exact ⟨rfl, rfl⟩
  · rintro ⟨rfl, rfl⟩
    exact ⟨List.Forall₂.nil, rfl⟩

/-- The first piece is a part of the text in front, and the rest of the text is cut along the rest
of the segments. -/
theorem cuts_cons_iff {segment : Segment} {segments : List Segment} {pieces : List (List Char)}
    {text : List Char} :
    Cuts (segment :: segments) pieces text ↔ ∃ k ≤ text.length, ∃ rest,
      pieces = text.take k :: rest ∧ segment.Fits (text.take k) ∧
        Cuts segments rest (text.drop k) := by
  constructor
  · rintro ⟨hfits, rfl⟩
    obtain ⟨piece, rest, hpiece, hrest, rfl⟩ := List.forall₂_cons_left_iff.mp hfits
    refine ⟨piece.length, ?_, rest, ?_, ?_, hrest, ?_⟩
    · rw [List.flatten_cons, List.length_append]
      exact Nat.le_add_right _ _
    · rw [List.flatten_cons, List.take_left]
    · rwa [List.flatten_cons, List.take_left]
    · rw [List.flatten_cons, List.drop_left]
  · rintro ⟨k, -, rest, rfl, hpiece, hrest, hflatten⟩
    refine ⟨List.Forall₂.cons hpiece hrest, ?_⟩
    rw [List.flatten_cons, hflatten, List.take_append_drop]

theorem canCut_nil_iff {text : List Char} : CanCut [] text ↔ text = [] :=
  ⟨fun ⟨_, hcuts⟩ ↦ (cuts_nil_iff.mp hcuts).2, fun h ↦ ⟨[], cuts_nil_iff.mpr ⟨rfl, h⟩⟩⟩

theorem canCut_cons_iff {segment : Segment} {segments : List Segment} {text : List Char} :
    CanCut (segment :: segments) text ↔
      ∃ k ≤ text.length, segment.Fits (text.take k) ∧ CanCut segments (text.drop k) := by
  constructor
  · rintro ⟨pieces, hcuts⟩
    obtain ⟨k, hk, rest, -, hpiece, hrest⟩ := cuts_cons_iff.mp hcuts
    exact ⟨k, hk, hpiece, rest, hrest⟩
  · rintro ⟨k, hk, hpiece, rest, hrest⟩
    exact ⟨_, cuts_cons_iff.mpr ⟨k, hk, rest, rfl, hpiece, hrest⟩⟩

/-- A greedy cut of the rest becomes one of the whole when no longer first piece would do. -/
theorem IsGreedy.cons {segment : Segment} {segments : List Segment} {rest : List (List Char)}
    {text : List Char} {k : Nat} (hk : k ≤ text.length) (hpiece : segment.Fits (text.take k))
    (hlongest : ∀ n ≤ text.length, segment.Fits (text.take n) → CanCut segments (text.drop n) →
      n ≤ k)
    (h : IsGreedy segments rest (text.drop k)) :
    IsGreedy (segment :: segments) (text.take k :: rest) text := by
  refine ⟨cuts_cons_iff.mpr ⟨k, hk, rest, rfl, hpiece, h.cuts⟩, fun other hother ↦ ?_⟩
  obtain ⟨n, hn, others, rfl, hfits, hothers⟩ := cuts_cons_iff.mp hother
  have hlength : ∀ i ≤ text.length, (text.take i).length = i := fun i hi ↦
    List.length_take_of_le hi
  rw [List.map_cons, List.map_cons, hlength n hn, hlength k hk]
  rcases (hlongest n hn hfits ⟨others, hothers⟩).lt_or_eq with hlt | rfl
  · have hless : n :: others.map List.length < k :: rest.map List.length := List.Lex.rel hlt
    exact hless.le
  · exact List.cons_le_cons n (h.greatest others hothers)

/-- Lengths tell the cuts of a text apart. -/
theorem IsGreedy.unique {segments : List Segment} {pieces others : List (List Char)}
    {text : List Char} (h : IsGreedy segments pieces text)
    (hothers : IsGreedy segments others text) : pieces = others :=
  List.eq_iff_flatten_eq.mpr ⟨h.cuts.2.trans hothers.cuts.2.symm,
    le_antisymm (hothers.greatest pieces h.cuts) (h.greatest others hothers.cuts)⟩

/-! ## The text that a segment takes -/

theorem startsFolded_iff {literal text : List Char} :
    startsFolded literal text = true ↔
      List.Forall₂ (fun a b ↦ fold a = fold b) literal (text.take literal.length) := by
  induction literal generalizing text with
  | nil => simp [startsFolded]
  | cons a literal ih =>
    cases text with
    | nil => simp [startsFolded]
    | cons b text =>
      rw [startsFolded, Bool.and_eq_true, sameFolded_iff, ih, List.length_cons,
        List.take_succ_cons, List.forall₂_cons]

/-- A literal has no choice of how much to take. -/
theorem fits_literal_take_iff {literal : String} {text : List Char} {k : Nat}
    (hk : k ≤ text.length) :
    (Segment.literal literal).Fits (text.take k) ↔
      k = literal.toList.length ∧ startsFolded literal.toList text = true := by
  rw [startsFolded_iff, Segment.Fits]
  constructor
  · intro h
    have hlength : literal.toList.length = k := by rw [h.length_eq, List.length_take_of_le hk]
    exact ⟨hlength.symm, by rwa [hlength]⟩
  · rintro ⟨rfl, h⟩
    exact h

theorem fits_placeholder_take_iff {name : String} {text : List Char} {k : Nat}
    (hk : k ≤ text.length) : (Segment.placeholder name).Fits (text.take k) ↔ 0 < k := by
  rw [Segment.Fits, ← List.length_pos_iff, List.length_take_of_le hk]

theorem length_le_of_startsFolded {literal text : List Char}
    (h : startsFolded literal text = true) : literal.length ≤ text.length := by
  have hlength := (startsFolded_iff.mp h).length_eq
  rw [List.length_take] at hlength
  omega

theorem canCut_literal_iff {literal : String} {segments : List Segment} {text : List Char} :
    CanCut (.literal literal :: segments) text ↔ startsFolded literal.toList text = true ∧
      CanCut segments (text.drop literal.toList.length) := by
  rw [canCut_cons_iff]
  constructor
  · rintro ⟨k, hk, hfits, hrest⟩
    obtain ⟨rfl, hstarts⟩ := (fits_literal_take_iff hk).mp hfits
    exact ⟨hstarts, hrest⟩
  · rintro ⟨hstarts, hrest⟩
    have hk := length_le_of_startsFolded hstarts
    exact ⟨_, hk, (fits_literal_take_iff hk).mpr ⟨rfl, hstarts⟩, hrest⟩

theorem canCut_placeholder_iff {name : String} {segments : List Segment} {text : List Char} :
    CanCut (.placeholder name :: segments) text ↔
      ∃ k, 0 < k ∧ k ≤ text.length ∧ CanCut segments (text.drop k) := by
  rw [canCut_cons_iff]
  constructor
  · rintro ⟨k, hk, hfits, hrest⟩
    exact ⟨k, (fits_placeholder_take_iff hk).mp hfits, hk, hrest⟩
  · rintro ⟨k, hpos, hk, hrest⟩
    exact ⟨k, hk, (fits_placeholder_take_iff hk).mpr hpos, hrest⟩

/-! ## The entries of a table -/

theorem headD_eq_true_iff {table : List Bool} :
    table.headD false = true ↔ table[0]? = some true := by
  cases table with
  | nil => simp
  | cons b rest => rw [List.headD_cons, List.getElem?_cons_zero, Option.some_inj]

theorem getElem?_emptyTable {text : List Char} {j : Nat} :
    (emptyTable text)[j]? = some true ↔ j = text.length := by
  induction text generalizing j with
  | nil => cases j <;> simp [emptyTable]
  | cons c text ih =>
    cases j with
    | zero => simp [emptyTable]
    | succ j => rw [emptyTable, List.getElem?_cons_succ, ih, List.length_cons, Nat.succ_inj]

theorem getElem?_literalTable {literal text : List Char} {next : List Bool} {j : Nat} :
    (literalTable literal text next)[j]? = some true ↔
      j ≤ text.length ∧ startsFolded literal (text.drop j) = true ∧
        next[j + literal.length]? = some true := by
  induction text generalizing next j with
  | nil =>
    cases j with
    | zero =>
      rw [literalTable, List.getElem?_cons_zero, Option.some_inj, Bool.and_eq_true,
        headD_eq_true_iff]
      cases literal <;> simp [startsFolded]
    | succ j => simp [literalTable]
  | cons c text ih =>
    cases j with
    | zero =>
      rw [literalTable, List.getElem?_cons_zero, Option.some_inj, Bool.and_eq_true,
        headD_eq_true_iff, List.getElem?_drop, Nat.add_comm, List.drop_zero]
      exact (and_iff_right (Nat.zero_le _)).symm
    | succ j =>
      rw [literalTable, List.getElem?_cons_succ, ih, List.drop_succ_cons, List.getElem?_tail,
        List.length_cons, Nat.succ_le_succ_iff, Nat.add_right_comm]

/-- An entry for a placeholder asks for a later entry of the next table. -/
theorem getElem?_placeholderTable {table : List Bool} {j : Nat} :
    (placeholderTable table)[j]? = some true ↔ ∃ i, j < i ∧ table[i]? = some true := by
  induction table generalizing j with
  | nil => simp [placeholderTable]
  | cons b next ih =>
    cases j with
    | zero =>
      rw [placeholderTable, List.getElem?_cons_zero, Option.some_inj, Bool.or_eq_true,
        headD_eq_true_iff, headD_eq_true_iff, ih]
      constructor
      · rintro (hnow | ⟨i, -, hlater⟩)
        · exact ⟨1, Nat.one_pos, hnow⟩
        · exact ⟨i + 1, Nat.succ_pos i, hlater⟩
      · rintro ⟨i, hi, hholds⟩
        obtain ⟨i, rfl⟩ := Nat.exists_eq_succ_of_ne_zero hi.ne'
        rcases Nat.eq_zero_or_pos i with rfl | hpos
        · exact Or.inl hholds
        · exact Or.inr ⟨i, hpos, hholds⟩
    | succ j =>
      rw [placeholderTable, List.getElem?_cons_succ, ih]
      constructor
      · rintro ⟨i, hi, hholds⟩
        exact ⟨i + 1, Nat.succ_lt_succ hi, hholds⟩
      · rintro ⟨i, hi, hholds⟩
        obtain ⟨i, rfl⟩ := Nat.exists_eq_succ_of_ne_zero (Nat.ne_zero_of_lt hi)
        exact ⟨i, Nat.lt_of_succ_lt_succ hi, hholds⟩

theorem getElem?_ne_of_lastHolding_eq_none {table : List Bool} (h : lastHolding table = none)
    (i : Nat) : table[i]? ≠ some true := by
  induction table generalizing i with
  | nil => simp
  | cons b rest ih =>
    rw [lastHolding] at h
    cases hrest : lastHolding rest with
    | some k => simp [hrest] at h
    | none =>
      cases i with
      | zero => simpa [hrest] using h
      | succ i => exact ih hrest i

theorem of_lastHolding_eq_some {table : List Bool} {k : Nat} (h : lastHolding table = some k) :
    table[k]? = some true ∧ ∀ i, table[i]? = some true → i ≤ k := by
  induction table generalizing k with
  | nil => cases h
  | cons b rest ih =>
    rw [lastHolding] at h
    cases hrest : lastHolding rest with
    | some last =>
      obtain rfl : last + 1 = k := by simpa [hrest] using h
      obtain ⟨hholds, hlast⟩ := ih hrest
      refine ⟨hholds, fun i hi ↦ ?_⟩
      cases i with
      | zero => exact Nat.zero_le _
      | succ i => exact Nat.succ_le_succ (hlast i hi)
    | none =>
      obtain ⟨rfl, rfl⟩ : b = true ∧ 0 = k := by simpa [hrest] using h
      refine ⟨rfl, fun i hi ↦ ?_⟩
      cases i with
      | zero => exact Nat.le_refl 0
      | succ i => exact absurd hi (getElem?_ne_of_lastHolding_eq_none hrest i)

/-! ## The tables of a template -/

/-- The entries that hold are those of the positions from which the text can be cut. -/
def Tabulates (segments : List Segment) (text : List Char) (table : List Bool) : Prop :=
  ∀ j, table[j]? = some true ↔ j ≤ text.length ∧ CanCut segments (text.drop j)

theorem tabulates_emptyTable (text : List Char) : Tabulates [] text (emptyTable text) := by
  intro j
  rw [getElem?_emptyTable, canCut_nil_iff, List.drop_eq_nil_iff]
  omega

theorem Tabulates.literalTable {segments : List Segment} {text : List Char} {next : List Bool}
    (h : Tabulates segments text next) (literal : String) :
    Tabulates (.literal literal :: segments) text
      (literalTable literal.toList text next) := by
  intro j
  rw [getElem?_literalTable, h, canCut_literal_iff, List.drop_drop]
  refine and_congr_right fun hj ↦ and_congr_right fun hstarts ↦ and_iff_right ?_
  have hlength := length_le_of_startsFolded hstarts
  rw [List.length_drop] at hlength
  omega

theorem Tabulates.placeholderTable {segments : List Segment} {text : List Char} {next : List Bool}
    (h : Tabulates segments text next) (name : String) :
    Tabulates (.placeholder name :: segments) text (placeholderTable next) := by
  intro j
  rw [getElem?_placeholderTable, canCut_placeholder_iff, List.length_drop]
  constructor
  · rintro ⟨i, hj, hi⟩
    obtain ⟨hlength, hcut⟩ := (h i).mp hi
    refine ⟨by omega, i - j, by omega, by omega, ?_⟩
    rwa [List.drop_drop, Nat.add_sub_cancel' hj.le]
  · rintro ⟨hj, k, hpos, hk, hcut⟩
    rw [List.drop_drop] at hcut
    exact ⟨j + k, by omega, (h (j + k)).mpr ⟨by omega, hcut⟩⟩

theorem tail_tables (text : List Char) (segment : Segment) (segments : List Segment) :
    (tables text (segment :: segments)).tail = tables text segments := by
  cases segment <;> rfl

/-- **The tables are right.** -/
theorem tabulates_tables (text : List Char) (segments : List Segment) :
    Tabulates segments text ((tables text segments).headD []) := by
  induction segments with
  | nil => exact tabulates_emptyTable text
  | cons segment segments ih =>
    cases segment with
    | literal literal => exact ih.literalTable literal
    | placeholder name => exact ih.placeholderTable name

/-! ## The search -/

/-- The table tells the search how much a placeholder can take at most. -/
theorem exists_lastHolding {segments : List Segment} {whole : List Char} {table : List Bool}
    (h : Tabulates segments whole table) {start : Nat} (hstart : start ≤ whole.length)
    {name : String} (hcut : CanCut (.placeholder name :: segments) (whole.drop start)) :
    ∃ k, lastHolding (table.drop start).tail = some k ∧ k + 1 ≤ (whole.drop start).length ∧
      CanCut segments ((whole.drop start).drop (k + 1)) ∧
      ∀ n, 0 < n → n ≤ (whole.drop start).length → CanCut segments ((whole.drop start).drop n) →
        n ≤ k + 1 := by
  have hentry : ∀ i, (table.drop start).tail[i]? = some true ↔
      i + 1 ≤ (whole.drop start).length ∧ CanCut segments ((whole.drop start).drop (i + 1)) := by
    intro i
    rw [List.getElem?_tail, List.getElem?_drop, h, List.length_drop, List.drop_drop]
    exact and_congr_left' (by omega)
  obtain ⟨n, hpos, hn, hrest⟩ := canCut_placeholder_iff.mp hcut
  cases hlast : lastHolding (table.drop start).tail with
  | none =>
    refine absurd ((hentry (n - 1)).mpr ?_) (getElem?_ne_of_lastHolding_eq_none hlast (n - 1))
    rw [Nat.sub_add_cancel hpos]
    exact ⟨hn, hrest⟩
  | some k =>
    obtain ⟨hholds, hgreatest⟩ := of_lastHolding_eq_some hlast
    obtain ⟨hk, hcut⟩ := (hentry k).mp hholds
    refine ⟨k, rfl, hk, hcut, fun m hm hlength hrest ↦ ?_⟩
    have hbelow := hgreatest (m - 1) ((hentry (m - 1)).mpr (by
      rw [Nat.sub_add_cancel hm]
      exact ⟨hlength, hrest⟩))
    omega

/-- **The search finds the greedy cut** of every suffix that can be cut. -/
theorem exists_cutAlong {segments : List Segment} {whole : List Char} {start : Nat}
    (hstart : start ≤ whole.length) (h : CanCut segments (whole.drop start)) :
    ∃ pieces, cutAlong whole.length segments (tables whole segments).tail (whole.drop start) =
      some pieces ∧ IsGreedy segments pieces (whole.drop start) := by
  induction segments generalizing start with
  | nil =>
    have hempty : whole.drop start = [] := canCut_nil_iff.mp h
    refine ⟨[], by rw [cutAlong, hempty]; rfl, ⟨cuts_nil_iff.mpr ⟨rfl, hempty⟩, ?_⟩⟩
    intro other hother
    rw [(cuts_nil_iff.mp hother).1]
  | cons segment segments ih =>
    rw [tail_tables]
    cases segment with
    | literal literal =>
      obtain ⟨hstarts, hrest⟩ := canCut_literal_iff.mp h
      have hlength := length_le_of_startsFolded hstarts
      rw [List.drop_drop] at hrest
      obtain ⟨pieces, hpieces, hgreedy⟩ := ih (by rw [List.length_drop] at hlength; omega) hrest
      rw [← List.drop_drop] at hpieces hgreedy
      refine ⟨_, ?_, IsGreedy.cons hlength ?_ ?_ hgreedy⟩
      · rw [cutAlong, if_pos hstarts, hpieces]
        rfl
      · exact (fits_literal_take_iff hlength).mpr ⟨rfl, hstarts⟩
      · intro n hn hfits _
        exact ((fits_literal_take_iff hn).mp hfits).1.le
    | placeholder name =>
      obtain ⟨k, hlast, hk, hrest, hlongest⟩ :=
        exists_lastHolding (tabulates_tables whole segments) hstart h
      have hoffset : whole.length - (whole.drop start).length = start := by
        rw [List.length_drop]
        omega
      rw [List.drop_drop] at hrest
      obtain ⟨pieces, hpieces, hgreedy⟩ := ih (by rw [List.length_drop] at hk; omega) hrest
      rw [← List.drop_drop] at hpieces hgreedy
      refine ⟨_, by simp only [cutAlong, hoffset, hlast, hpieces, Option.map_some],
        IsGreedy.cons hk ?_ ?_ hgreedy⟩
      · exact (fits_placeholder_take_iff hk).mpr (Nat.succ_pos k)
      · intro n hn hfits hcut
        exact hlongest n ((fits_placeholder_take_iff hn).mp hfits) hn hcut

theorem exists_cut {segments : List Segment} {text : List Char} (h : CanCut segments text) :
    ∃ pieces, cut segments text = some pieces ∧ IsGreedy segments pieces text := by
  have hentry : ((tables text segments).headD []).headD false = true := by
    rw [headD_eq_true_iff, tabulates_tables text segments]
    exact ⟨Nat.zero_le _, h⟩
  obtain ⟨pieces, hpieces, hgreedy⟩ := exists_cutAlong (Nat.zero_le text.length) h
  exact ⟨pieces, by rw [cut, if_pos hentry]; exact hpieces, hgreedy⟩

theorem canCut_of_cut_eq_some {segments : List Segment} {text : List Char}
    {pieces : List (List Char)} (h : cut segments text = some pieces) : CanCut segments text := by
  by_cases hentry : ((tables text segments).headD []).headD false = true
  · rw [headD_eq_true_iff, tabulates_tables text segments] at hentry
    exact hentry.2
  · rw [cut, if_neg hentry] at h
    cases h

theorem isSome_cut_iff {segments : List Segment} {text : List Char} :
    (cut segments text).isSome = true ↔ CanCut segments text := by
  rw [Option.isSome_iff_exists]
  constructor
  · rintro ⟨pieces, hpieces⟩
    exact canCut_of_cut_eq_some hpieces
  · intro h
    obtain ⟨pieces, hpieces, -⟩ := exists_cut h
    exact ⟨pieces, hpieces⟩

/-- **The cut is the greedy one.** -/
theorem cut_eq_some_iff {segments : List Segment} {text : List Char} {pieces : List (List Char)} :
    cut segments text = some pieces ↔ IsGreedy segments pieces text := by
  constructor
  · intro h
    obtain ⟨found, hfound, hgreedy⟩ := exists_cut (canCut_of_cut_eq_some h)
    rwa [Option.some_inj.mp (h.symm.trans hfound)]
  · intro h
    obtain ⟨found, hfound, hgreedy⟩ := exists_cut ⟨pieces, h.cuts⟩
    rw [hfound, hgreedy.unique h]

end Template

end Phrasebook
