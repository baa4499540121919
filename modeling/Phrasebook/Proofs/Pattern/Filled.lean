import Phrasebook.Proofs.Pattern.Captures
import Phrasebook.Proofs.Text.Case

/-!
# Templates that are filled in

A template is filled in by writing its literals, in any case, and a value for every occurrence of a
placeholder. The text that comes out can be cut along the template, whatever the values are: the
pieces that were written are such a cut.

It need not be the greedy cut, since a value may hold a literal of the template. With one
placeholder there is no choice, though. The literals take as many characters as they have, so the
length of the text tells how many are left for the placeholder.
-/

namespace Phrasebook

open Text

/-- What may be written for a segment when its template is filled in: a literal in any case of its
ASCII letters, and any value that is not empty for a placeholder. -/
def Segment.WrittenAs : Segment → List Char → Prop
  | .literal text, piece => CaseVariant text.toList piece
  | .placeholder _, value => value ≠ []

instance (segment : Segment) (piece : List Char) : Decidable (segment.WrittenAs piece) :=
  match segment with
  | .literal text => inferInstanceAs (Decidable (CaseVariant text.toList piece))
  | .placeholder _ => inferInstanceAs (Decidable (piece ≠ []))

theorem Segment.WrittenAs.fits {segment : Segment} {piece : List Char}
    (h : segment.WrittenAs piece) : segment.Fits piece := by
  cases segment with
  | literal text => exact (forall₂_image_iff fold).mpr h.map_fold_eq
  | placeholder name => exact h

namespace Template

open Pattern

variable {segments : List Segment} {pieces others : List (List Char)} {text : List Char}

theorem cuts_of_writtenAs (h : List.Forall₂ Segment.WrittenAs segments pieces) :
    Cuts segments pieces pieces.flatten := ⟨h.imp fun _ _ hpiece ↦ hpiece.fits, rfl⟩

/-! ## Cuts without a choice -/

/-- The number of characters of the literals. -/
def literalSize (segments : List Segment) : Nat :=
  ((literalTexts segments).flatMap String.toList).length

/-- Without placeholders a text is as long as the literals. -/
theorem Cuts.length_eq (h : Cuts segments pieces text) (hnone : placeholderNames segments = []) :
    text.length = literalSize segments := by
  induction segments generalizing pieces text with
  | nil => rw [(cuts_nil_iff.mp h).2]; rfl
  | cons segment segments ih =>
    obtain ⟨k, hk, rest, rfl, hpiece, hrest⟩ := cuts_cons_iff.mp h
    cases segment with
    | literal literal =>
      obtain ⟨rfl, -⟩ := (fits_literal_take_iff hk).mp hpiece
      have hlength : text.length - literal.toList.length = literalSize segments := by
        rw [← List.length_drop]
        exact ih hrest hnone
      have hsize : literalSize (.literal literal :: segments) =
          literal.toList.length + literalSize segments := List.length_append
      omega
    | placeholder name => cases hnone

/-- **One placeholder leaves no choice.** -/
theorem Cuts.unique (h : Cuts segments pieces text) (hother : Cuts segments others text)
    (hone : (placeholderNames segments).length ≤ 1) : pieces = others := by
  induction segments generalizing pieces others text with
  | nil => rw [(cuts_nil_iff.mp h).1, (cuts_nil_iff.mp hother).1]
  | cons segment segments ih =>
    obtain ⟨k, hk, rest, rfl, hpiece, hrest⟩ := cuts_cons_iff.mp h
    obtain ⟨n, hn, rest', rfl, hpiece', hrest'⟩ := cuts_cons_iff.mp hother
    -- the first pieces have the same length, as the literals or the whole text tell
    cases segment with
    | literal literal =>
      obtain ⟨rfl, -⟩ := (fits_literal_take_iff hk).mp hpiece
      obtain ⟨rfl, -⟩ := (fits_literal_take_iff hn).mp hpiece'
      rw [ih hrest hrest' hone]
    | placeholder name =>
      have hnone : placeholderNames segments = [] :=
        List.length_eq_zero_iff.mp (Nat.le_zero.mp (Nat.le_of_succ_le_succ hone))
      have hlength : text.length - k = text.length - n := by
        rw [← List.length_drop, ← List.length_drop, hrest.length_eq hnone, hrest'.length_eq hnone]
      obtain rfl : k = n := by omega
      rw [ih hrest hrest' (hnone ▸ Nat.zero_le 1)]

end Template

/-! ## Captures of what was written -/

namespace Pattern

open Template

theorem isMatch_of_writtenAs {pattern : Pattern} {pieces : List (List Char)}
    (h : List.Forall₂ Segment.WrittenAs pattern.segments pieces) :
    pattern.isMatch (String.ofList pieces.flatten) = true := by
  rw [isMatch, String.toList_ofList]
  exact isSome_cut_iff.mpr ⟨pieces, cuts_of_writtenAs h⟩

/-- A placeholder that occurs once has taken the piece at its place. -/
theorem firstPiece_eq_of_mem {segments : List Segment} {pieces : List (List Char)}
    (hnames : (placeholderNames segments).Nodup) {name : String} {piece : List Char}
    (h : (Segment.placeholder name, piece) ∈ segments.zip pieces) :
    firstPiece segments pieces name = some piece := by
  induction segments generalizing pieces with
  | nil => exact absurd h List.not_mem_nil
  | cons segment segments ih =>
    cases pieces with
    | nil => exact absurd h List.not_mem_nil
    | cons first pieces =>
      rw [List.zip_cons_cons, List.mem_cons, Prod.mk.injEq] at h
      cases segment with
      | literal text =>
        rw [firstPiece_cons_literal]
        exact ih hnames (h.resolve_left fun hhead ↦ nomatch hhead.1)
      | placeholder other =>
        obtain ⟨hother, hrest⟩ := List.nodup_cons.mp hnames
        rcases h with ⟨hname, rfl⟩ | hlater
        · rw [Segment.placeholder.inj hname, firstPiece_cons_self]
        · have hne : name ≠ other := by
            rintro rfl
            exact hother (mem_placeholderNames_iff.mpr (List.of_mem_zip hlater).1)
          rw [firstPiece_cons_of_ne hne]
          exact ih hrest hlater

/-- **A value comes back as it was written** when it is the only one. -/
theorem get?_of_only_placeholder {pattern : Pattern} {text : String} {captures : Captures}
    (h : pattern.captures? text = some captures) {name : String}
    (hone : placeholderNames pattern.segments = [name]) {pieces : List (List Char)}
    (hcuts : Cuts pattern.segments pieces text.toList) {value : List Char}
    (hvalue : (Segment.placeholder name, value) ∈ pattern.segments.zip pieces) :
    captures.get? name = some (String.ofList value) := by
  obtain ⟨found, hgreedy, rfl⟩ := captures?_eq_some_iff.mp h
  obtain rfl : found = pieces := hgreedy.cuts.unique hcuts (by rw [hone]; exact Nat.le_refl 1)
  have hnames : (placeholderNames pattern.segments).Nodup := by
    rw [hone]
    exact List.pairwise_singleton _ name
  rw [get?_nameCaptures_empty, firstPiece_eq_of_mem hnames hvalue, Option.map_some]

end Pattern

end Phrasebook
