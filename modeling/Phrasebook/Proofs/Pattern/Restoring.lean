import Phrasebook.Proofs.Pattern.Filled
import Phrasebook.Proofs.Substitution.References

/-!
# Captures that are put back

A template is read twice, once to match texts and once more when it stands in a parameter and what
was captured is put in for its placeholders. The second reading never fails and knows nothing of the
first, but on a template both find the same pieces: `parts_print`. So what the placeholders took
goes back to the places where it was taken from, whatever it looks like, and the literals stand
between.

What comes out is the text that was matched, up to the case of the literals. The names must differ
for this, since a name that occurs twice has one capture. For matching they are no more than names,
and a template in which they are changed matches the same texts.
-/

namespace Phrasebook

open Text

/-! ## Two readings of a template -/

namespace Substitution

/-- The pieces that a segment of a template is for substitution. -/
def partsOf : Segment → List Part
  | .literal text => verbatim text.toList
  | .placeholder name => [.reference name]

/-- **Both readings agree.** The references in a template are its placeholders. -/
theorem parts_print {segments : List Segment} (h : ∀ segment ∈ segments, segment.IsProper) :
    parts (Template.print segments).toList = segments.flatMap partsOf := by
  rw [Template.print, String.toList_ofList, parts]
  induction segments with
  | nil => rfl
  | cons segment segments ih =>
    obtain ⟨hsegment, hsegments⟩ := List.forall_mem_cons.mp h
    rw [List.flatMap_cons, List.flatMap_cons, ← ih hsegments]
    cases segment with
    | literal text => exact partsFrom_none_append hsegment.2 _
    | placeholder name =>
      rw [Template.segmentChars, List.cons_append, List.append_assoc, List.singleton_append,
        partsFrom, if_pos rfl, partsFrom_name hsegment, String.ofList_toList]
      rfl

theorem flatMap_resolve_verbatim (captures : Captures) (text : List Char) :
    (verbatim text).flatMap (Part.resolve captures) = text := by
  rw [verbatim, List.flatMap_map]
  exact List.flatMap_singleton' text

end Substitution

/-! ## Pieces that are put back -/

/-- What stands for a segment once the captures are put in: a literal as the template has it, and
the piece that a placeholder took. -/
def Segment.restored : Segment → List Char → List Char
  | .literal text, _ => text.toList
  | .placeholder _, piece => piece

theorem Segment.Fits.map_fold_restored {segment : Segment} {piece : List Char}
    (h : segment.Fits piece) : (segment.restored piece).map fold = piece.map fold := by
  cases segment with
  | literal text => exact (forall₂_image_iff fold).mp h
  | placeholder name => rfl

namespace Template

variable {segments : List Segment} {pieces : List (List Char)}

/-- Segment by segment the restored pieces agree with those of the text up to case. -/
theorem map_map_fold_restored (h : List.Forall₂ Segment.Fits segments pieces) :
    (List.zipWith Segment.restored segments pieces).map (List.map fold) =
      pieces.map (List.map fold) := by
  induction h with
  | nil => rfl
  | cons hpiece hrest ih =>
    rw [List.zipWith_cons_cons, List.map_cons, List.map_cons, hpiece.map_fold_restored, ih]

theorem length_flatten_restored (h : List.Forall₂ Segment.Fits segments pieces) :
    (List.zipWith Segment.restored segments pieces).flatten.length = pieces.flatten.length := by
  have hfold := congrArg (List.length ∘ List.flatten) (map_map_fold_restored h)
  rwa [Function.comp_apply, Function.comp_apply, ← List.map_flatten, ← List.map_flatten,
    List.length_map, List.length_map] at hfold

end Template

/-! ## Other names -/

/-- The segments differ at most in the name of a placeholder. -/
inductive Segment.Alike : Segment → Segment → Prop where
  | literal (text : String) : Alike (.literal text) (.literal text)
  | placeholder (name other : String) : Alike (.placeholder name) (.placeholder other)

theorem Segment.Alike.fits_iff {segment other : Segment} (h : segment.Alike other)
    (piece : List Char) : segment.Fits piece ↔ other.Fits piece := by
  cases h <;> rfl

theorem Segment.Alike.ofSegment_eq {segment other : Segment} (h : segment.Alike other) :
    Expression.ofSegment segment = Expression.ofSegment other := by
  cases h <;> rfl

/-- The names are not in the expression. -/
theorem Expression.ofSegments_eq {segments others : List Segment}
    (h : List.Forall₂ Segment.Alike segments others) : ofSegments segments = ofSegments others := by
  have hparts : segments.map ofSegment = others.map ofSegment := by
    rw [← List.forall₂_eq_eq_eq, List.forall₂_map_left_iff, List.forall₂_map_right_iff]
    exact h.imp fun _ _ ↦ Segment.Alike.ofSegment_eq
  rw [ofSegments, ofSegments, List.flatMap_def, List.flatMap_def, hparts]

namespace Template

variable {segments others : List Segment} {pieces : List (List Char)} {text : List Char}

theorem forall₂_fits_iff (h : List.Forall₂ Segment.Alike segments others) :
    List.Forall₂ Segment.Fits segments pieces ↔ List.Forall₂ Segment.Fits others pieces := by
  induction h generalizing pieces with
  | nil => rfl
  | cons hsegment hrest ih =>
    rw [List.forall₂_cons_left_iff, List.forall₂_cons_left_iff]
    refine exists_congr fun piece ↦ exists_congr fun rest ↦ ?_
    rw [hsegment.fits_iff, ih]

theorem isGreedy_iff (h : List.Forall₂ Segment.Alike segments others) :
    IsGreedy segments pieces text ↔ IsGreedy others pieces text := by
  have hcuts : ∀ pieces, Cuts segments pieces text ↔ Cuts others pieces text := fun _ ↦
    and_congr_left' (forall₂_fits_iff h)
  constructor
  · intro hgreedy
    exact ⟨(hcuts pieces).mp hgreedy.cuts, fun other hother ↦
      hgreedy.greatest other ((hcuts other).mpr hother)⟩
  · intro hgreedy
    exact ⟨(hcuts pieces).mpr hgreedy.cuts, fun other hother ↦
      hgreedy.greatest other ((hcuts other).mp hother)⟩

/-- Names do not matter for cutting. -/
theorem cut_eq (h : List.Forall₂ Segment.Alike segments others) (text : List Char) :
    cut segments text = cut others text := by
  refine Option.ext fun pieces ↦ ?_
  rw [cut_eq_some_iff, cut_eq_some_iff, isGreedy_iff h]

end Template

namespace Pattern

open Template Substitution

/-- A template with other names is a pattern for the same texts. -/
theorem exists_compile_eq_ok {template other : String} {pattern : Pattern}
    (h : compile template = .ok pattern) {segments : List Segment}
    (hother : Template.segments other = .ok segments)
    (halike : List.Forall₂ Segment.Alike pattern.segments segments) :
    ∃ renamed, compile other = .ok renamed ∧
      ∀ text, renamed.isMatch text = pattern.isMatch text := by
  refine ⟨⟨other, segments, hother⟩, compile_eq_ok_iff.mpr ⟨rfl, ?_⟩, fun text ↦ ?_⟩
  · rw [← Expression.ofSegments_eq halike]
    exact (compile_eq_ok_iff.mp h).2
  · rw [isMatch, isMatch, cut_eq halike]

/-! ## Captures that are put back -/

theorem flatMap_resolve_partsOf {segments : List Segment} {pieces : List (List Char)}
    {captures : Captures} (hlength : segments.length = pieces.length)
    (h : ∀ name piece, (.placeholder name, piece) ∈ segments.zip pieces →
      captures.get? name = some (String.ofList piece)) :
    (segments.flatMap partsOf).flatMap (Part.resolve captures) =
      (List.zipWith Segment.restored segments pieces).flatten := by
  induction segments generalizing pieces with
  | nil => rfl
  | cons segment segments ih =>
    obtain ⟨piece, pieces, rfl⟩ := List.exists_cons_of_length_eq_add_one hlength.symm
    rw [List.zip_cons_cons] at h
    have hrest := ih (Nat.succ.inj hlength) fun name piece hmem ↦
      h name piece (List.mem_cons_of_mem _ hmem)
    rw [List.flatMap_cons, List.flatMap_append, hrest, List.zipWith_cons_cons, List.flatten_cons]
    cases segment with
    | literal text => rw [partsOf, flatMap_resolve_verbatim, Segment.restored]
    | placeholder name =>
      have hname := h name piece List.mem_cons_self
      rw [partsOf, List.flatMap_singleton, Part.resolve, hname, Option.getD_some,
        String.toList_ofList, Segment.restored]

/-- **Captures can be put back.** When the placeholders of a template have different names, filling
it in with the captures of a text gives the text again, as long as it was, with every captured piece
as it was and in its place, and with literals that differ at most in case. And a template with other
names matches the same texts. -/
theorem substitute_captures {template : String} {pattern : Pattern}
    (h : compile template = .ok pattern) :
    ((placeholderNames pattern.segments).Nodup → ∀ text captures,
      pattern.captures? text = some captures →
        ∃ pieces, IsGreedy pattern.segments pieces text.toList ∧
          (∀ name piece, (.placeholder name, piece) ∈ pattern.segments.zip pieces →
            captures.get? name = some (String.ofList piece)) ∧
          (substitute captures template).toList =
            (List.zipWith Segment.restored pattern.segments pieces).flatten ∧
          (List.zipWith Segment.restored pattern.segments pieces).map (List.map fold) =
            pieces.map (List.map fold) ∧
          (substitute captures template).length = text.length) ∧
    ∀ other segments, Template.segments other = .ok segments →
      List.Forall₂ Segment.Alike pattern.segments segments →
        ∃ renamed, compile other = .ok renamed ∧
          ∀ text, renamed.isMatch text = pattern.isMatch text := by
  refine ⟨fun hnames text captures hcaptures ↦ ?_, fun other segments ↦ exists_compile_eq_ok h⟩
  obtain ⟨pieces, hgreedy, rfl⟩ := captures?_eq_some_iff.mp hcaptures
  obtain ⟨hfits, hflatten⟩ := hgreedy.cuts
  have hget : ∀ name piece, (.placeholder name, piece) ∈ pattern.segments.zip pieces →
      (nameCaptures pattern.segments pieces ∅).get? name = some (String.ofList piece) := by
    intro name piece hpiece
    rw [get?_nameCaptures_empty, firstPiece_eq_of_mem hnames hpiece, Option.map_some]
  obtain ⟨hnormal, hprint⟩ := segments_eq_ok_iff.mp pattern.segments_eq
  have htext : (substitute (nameCaptures pattern.segments pieces ∅) template).toList =
      (List.zipWith Segment.restored pattern.segments pieces).flatten := by
    rw [substitute, String.toList_ofList, ← (compile_eq_ok_iff.mp h).1, ← hprint,
      parts_print hnormal.proper, flatMap_resolve_partsOf hfits.length_eq hget]
  refine ⟨pieces, hgreedy, hget, htext, map_map_fold_restored hfits, ?_⟩
  rw [← String.length_toList, htext, length_flatten_restored hfits, hflatten, String.length_toList]

/-- What was captured looks like a placeholder, and it is not taken for one. -/
theorem substitute_captures_of_placeholder :
    ∃ pattern captures renamed,
      compile "move \x7ba\x7d to \x7bb\x7d" = .ok pattern ∧
      pattern.captures? "Move \x7bb\x7d TO x to y" = some captures ∧
      substitute captures "move \x7ba\x7d to \x7bb\x7d" = "move \x7bb\x7d TO x to y" ∧
      compile "move \x7bx\x7d to \x7bx\x7d" = .ok renamed ∧
      renamed.isMatch "Move \x7bb\x7d TO x to y" = true := by
  let pattern : Pattern := ⟨"move \x7ba\x7d to \x7bb\x7d",
    [.literal "move ", .placeholder "a", .literal " to ", .placeholder "b"], by decide⟩
  have hcompile : compile "move \x7ba\x7d to \x7bb\x7d" = .ok pattern :=
    compile_eq_ok_iff.mpr ⟨rfl, by decide⟩
  obtain ⟨hrestored, hrenamed⟩ := substitute_captures hcompile
  have hcut : cut pattern.segments "Move \x7bb\x7d TO x to y".toList =
      some ["Move ".toList, "\x7bb\x7d TO x".toList, " to ".toList, "y".toList] := by decide
  have hmatch : pattern.isMatch "Move \x7bb\x7d TO x to y" = true := by
    rw [isMatch, hcut]
    rfl
  obtain ⟨captures, hcaptures⟩ : ∃ captures,
      pattern.captures? "Move \x7bb\x7d TO x to y" = some captures :=
    ⟨_, by rw [captures?, hcut, Option.map_some]⟩
  obtain ⟨pieces, hgreedy, -, htext, -⟩ := hrestored (by decide) _ _ hcaptures
  obtain rfl := Option.some_inj.mp ((cut_eq_some_iff.mpr hgreedy).symm.trans hcut)
  obtain ⟨renamed, hother, hsame⟩ := hrenamed "move \x7bx\x7d to \x7bx\x7d"
    [.literal "move ", .placeholder "x", .literal " to ", .placeholder "x"] (by decide)
    (.cons (.literal _) (.cons (.placeholder _ _) (.cons (.literal _) (.cons (.placeholder _ _)
      .nil))))
  refine ⟨pattern, captures, renamed, hcompile, hcaptures, ?_, hother, (hsame _).trans hmatch⟩
  rw [← String.toList_inj, htext]
  rfl

end Pattern

end Phrasebook
