import Mathlib.Data.List.Basic
import Phrasebook.Text.Blank

/-!
# Cutting a text at separators

The pieces of a text are cut out between separators. A separator keeps what stands in front of it
apart from what stands behind it (`piecesBy_append`), so pieces that are joined by a separator are
found again (`piecesBy_intercalate`), and no piece has anything in it that the text does not have.

Pieces are not the only thing that is found in a text on both sides of a separator. `SplitsAt` is
said of whatever is found so. It is found piece by piece then, and it does not matter with how many
separators texts are joined.
-/

namespace Phrasebook.Text

variable {sep : Char → Bool} {c : Char}

theorem piecesBy_go_append (hc : sep c = true) (run before after : List Char) :
    piecesBy.go sep run (before ++ c :: after) =
      piecesBy.go sep run before ++ piecesBy.go sep [] after := by
  induction before generalizing run with
  | nil =>
    simp only [List.nil_append, piecesBy.go, if_pos hc]
    split <;> rfl
  | cons d before ih =>
    rw [List.cons_append, piecesBy.go, piecesBy.go, ih, ih]
    split
    · split <;> rfl
    · rfl

/-- A separator separates the pieces in front of it from those behind it. -/
theorem piecesBy_append (hc : sep c = true) (before after : List Char) :
    piecesBy sep (before ++ c :: after) = piecesBy sep before ++ piecesBy sep after :=
  piecesBy_go_append hc [] before after

theorem piecesBy_go_of_forall {text : List Char} (h : ∀ c ∈ text, sep c = false)
    (run : List Char) (hne : run.reverse ++ text ≠ []) :
    piecesBy.go sep run text = [run.reverse ++ text] := by
  induction text generalizing run with
  | nil =>
    rw [List.append_nil] at hne ⊢
    rw [piecesBy.go, if_neg (by simpa using hne)]
  | cons d text ih =>
    obtain ⟨hd, htext⟩ := List.forall_mem_cons.mp h
    rw [piecesBy.go, if_neg (by simp [hd]), ih htext (d :: run) (by simp), List.reverse_cons,
      List.append_assoc, List.singleton_append]

/-- Text that could be a piece: it is there, and it has no separator in it. -/
def IsPiece (sep : Char → Bool) (piece : List Char) : Prop :=
  piece ≠ [] ∧ ∀ c ∈ piece, sep c = false

theorem IsPiece.piecesBy {piece : List Char} (h : IsPiece sep piece) :
    piecesBy sep piece = [piece] := piecesBy_go_of_forall h.2 [] h.1

/-! ## What is found on both sides of a separator -/

/-- What `f` finds in a text is what it finds in front of a separator and what it finds behind. -/
structure SplitsAt {β : Type} (sep : Char → Bool) (f : List Char → List β) : Prop where
  nil : f [] = []
  append : ∀ c, sep c = true → ∀ before after, f (before ++ c :: after) = f before ++ f after

theorem splitsAt_piecesBy : SplitsAt sep (piecesBy sep) where
  nil := rfl
  append _ hc := piecesBy_append hc

namespace SplitsAt

variable {β : Type} {f : List Char → List β}

/-- Several separators are as good as one. -/
theorem append_run (h : SplitsAt sep f) {run : List Char} (hne : run ≠ [])
    (hrun : ∀ c ∈ run, sep c = true) (before after : List Char) :
    f (before ++ run ++ after) = f before ++ f after := by
  induction run generalizing before with
  | nil => exact absurd rfl hne
  | cons c run ih =>
    obtain ⟨hc, hrun⟩ := List.forall_mem_cons.mp hrun
    rw [List.append_assoc, List.cons_append, h.append c hc]
    by_cases hlast : run = []
    · rw [hlast, List.nil_append]
    · have hrest := ih hlast hrun []
      rw [h.nil, List.nil_append, List.nil_append] at hrest
      rw [hrest]

theorem intercalate (h : SplitsAt sep f) (hc : sep c = true) (texts : List (List Char)) :
    f ([c].intercalate texts) = texts.flatMap f := by
  induction texts with
  | nil => exact h.nil
  | cons text rest ih =>
    cases rest with
    | nil => rw [List.intercalate_singleton, List.flatMap_singleton]
    | cons next rest =>
      rw [List.intercalate_cons_cons, List.append_assoc, List.singleton_append, h.append c hc, ih]
      exact List.flatMap_cons.symm

theorem flatMap_piecesBy_go (h : SplitsAt sep f) (run text : List Char) :
    (piecesBy.go sep run text).flatMap f = f (run.reverse ++ text) := by
  fun_induction piecesBy.go sep run text with
  | case1 run hempty =>
    rw [List.isEmpty_iff.mp hempty]
    exact h.nil.symm
  | case2 run hempty => rw [List.flatMap_singleton, List.append_nil]
  | case3 run d text hd hempty ih =>
    rw [ih, List.isEmpty_iff.mp hempty, h.append d hd, List.reverse_nil, h.nil]
    rfl
  | case4 run d text hd hempty ih =>
    rw [List.flatMap_cons, ih, h.append d hd]
    rfl
  | case5 run d text hd ih =>
    rw [ih, List.reverse_cons, List.append_assoc, List.singleton_append]

/-- **Nothing is found but what is in the pieces.** -/
theorem flatMap_piecesBy (h : SplitsAt sep f) (text : List Char) :
    (piecesBy sep text).flatMap f = f text := h.flatMap_piecesBy_go [] text

/-- So a run of blanks may be replaced by one. -/
theorem collapseBlanks (h : SplitsAt isBlank f) (text : List Char) :
    f (collapseBlanks text) = f text := by
  have hjoin : Text.collapseBlanks text = [' '].intercalate (words text) := rfl
  rw [hjoin, h.intercalate (by decide), words, h.flatMap_piecesBy]

end SplitsAt

/-- Pieces with a separator between neighbours are cut at the separators. -/
theorem piecesBy_intercalate (hc : sep c = true) {pieces : List (List Char)}
    (h : ∀ piece ∈ pieces, IsPiece sep piece) : piecesBy sep ([c].intercalate pieces) = pieces := by
  have hpieces : pieces.flatMap (piecesBy sep) = pieces.flatMap fun piece ↦ [piece] :=
    List.flatMap_congr fun piece hpiece ↦ (h piece hpiece).piecesBy
  rw [splitsAt_piecesBy.intercalate hc, hpieces, List.flatMap_singleton']

/-- Joined pieces have nothing in them but the separator and what the pieces have. -/
theorem forall_mem_intercalate {p : Char → Prop} (hc : p c) {pieces : List (List Char)}
    (h : ∀ piece ∈ pieces, ∀ d ∈ piece, p d) : ∀ d ∈ [c].intercalate pieces, p d := by
  induction pieces with
  | nil => exact fun d hd ↦ absurd hd List.not_mem_nil
  | cons piece rest ih =>
    obtain ⟨hpiece, hrest⟩ := List.forall_mem_cons.mp h
    cases rest with
    | nil =>
      rw [List.intercalate_singleton]
      exact hpiece
    | cons next rest =>
      rw [List.intercalate_cons_cons]
      refine List.forall_mem_append.mpr ⟨List.forall_mem_append.mpr ⟨hpiece, ?_⟩, ih hrest⟩
      exact List.forall_mem_singleton.mpr hc

theorem of_mem_piecesBy_go {run text piece : List Char} (hrun : ∀ c ∈ run, sep c = false)
    (h : piece ∈ piecesBy.go sep run text) :
    IsPiece sep piece ∧ ∀ c ∈ piece, c ∈ run ∨ c ∈ text := by
  have hreverse : ∀ run : List Char, (∀ c ∈ run, sep c = false) → ¬run.isEmpty = true →
      IsPiece sep run.reverse := fun run hrun hne ↦
    ⟨by simpa using hne, fun c hc ↦ hrun c (List.mem_reverse.mp hc)⟩
  fun_induction piecesBy.go sep run text with
  | case1 run hempty => cases h
  | case2 run hempty =>
    obtain rfl := List.mem_singleton.mp h
    exact ⟨hreverse run hrun hempty, fun c hc ↦ .inl (List.mem_reverse.mp hc)⟩
  | case3 run d text hd hempty ih =>
    obtain ⟨hpiece, hmem⟩ := ih (fun _ hc ↦ absurd hc List.not_mem_nil) h
    refine ⟨hpiece, fun c hc ↦ .inr (List.mem_cons_of_mem d ?_)⟩
    exact (hmem c hc).resolve_left List.not_mem_nil
  | case4 run d text hd hempty ih =>
    rcases List.mem_cons.mp h with rfl | htext
    · exact ⟨hreverse run hrun hempty, fun c hc ↦ .inl (List.mem_reverse.mp hc)⟩
    · obtain ⟨hpiece, hmem⟩ := ih (fun _ hc ↦ absurd hc List.not_mem_nil) htext
      refine ⟨hpiece, fun c hc ↦ .inr (List.mem_cons_of_mem d ?_)⟩
      exact (hmem c hc).resolve_left List.not_mem_nil
  | case5 run d text hd ih =>
    obtain ⟨hpiece, hmem⟩ := ih (List.forall_mem_cons.mpr ⟨by simpa using hd, hrun⟩) h
    refine ⟨hpiece, fun c hc ↦ ?_⟩
    rw [List.mem_cons, ← or_assoc, or_comm (a := c ∈ run), ← List.mem_cons]
    exact hmem c hc

/-- What the pieces of a text are made of. -/
theorem of_mem_piecesBy {text piece : List Char} (h : piece ∈ piecesBy sep text) :
    IsPiece sep piece ∧ ∀ c ∈ piece, c ∈ text := by
  obtain ⟨hpiece, hmem⟩ := of_mem_piecesBy_go (fun _ hc ↦ absurd hc List.not_mem_nil) h
  exact ⟨hpiece, fun c hc ↦ (hmem c hc).resolve_left List.not_mem_nil⟩

end Phrasebook.Text
