import Phrasebook.Pattern
import Phrasebook.Proofs.Template.Cutting

/-!
# What the placeholders take

A text matches a pattern when it can be cut along the pattern's segments, and the captures are read
off the greedy cut. Each placeholder of the pattern has a capture and no other name has one. A
placeholder that occurs more than once keeps what it took first, though the text has to have
something for every occurrence.
-/

namespace Phrasebook.Pattern

open Template

/-! ## Placeholders -/

theorem mem_placeholderNames_iff {segments : List Segment} {name : String} :
    name ∈ placeholderNames segments ↔ Segment.placeholder name ∈ segments := by
  rw [placeholderNames, List.mem_filterMap]
  constructor
  · rintro ⟨_ | other, hmem, hname⟩
    · cases hname
    · rwa [← Option.some_inj.mp hname]
  · exact fun hmem ↦ ⟨.placeholder name, hmem, rfl⟩

theorem mem_placeholders_iff {pattern : Pattern} {name : String} :
    name ∈ pattern.placeholders ↔ Segment.placeholder name ∈ pattern.segments := by
  rw [placeholders, List.mem_eraseDups, mem_placeholderNames_iff]

/-- What a placeholder took where it occurs first. -/
def firstPiece (segments : List Segment) (pieces : List (List Char)) (name : String) :
    Option (List Char) := (segments.zip pieces).lookup (.placeholder name)

theorem firstPiece_cons_literal (text : String) (segments : List Segment) (piece : List Char)
    (pieces : List (List Char)) (name : String) :
    firstPiece (.literal text :: segments) (piece :: pieces) name =
      firstPiece segments pieces name := rfl

theorem firstPiece_cons_self (name : String) (segments : List Segment) (piece : List Char)
    (pieces : List (List Char)) :
    firstPiece (.placeholder name :: segments) (piece :: pieces) name = some piece :=
  List.lookup_cons_self

theorem firstPiece_cons_of_ne {name other : String} (h : other ≠ name) (segments : List Segment)
    (piece : List Char) (pieces : List (List Char)) :
    firstPiece (.placeholder name :: segments) (piece :: pieces) other =
      firstPiece segments pieces other := by
  have hne : (Segment.placeholder other == Segment.placeholder name) = false :=
    beq_eq_false_iff_ne.mpr fun heq ↦ h (Segment.placeholder.inj heq)
  rw [firstPiece, List.zip_cons_cons, List.lookup_cons, hne, firstPiece]

/-- A placeholder took something, and nothing else did. -/
theorem firstPiece_ne_nil {segments : List Segment} {pieces : List (List Char)}
    (h : List.Forall₂ Segment.Fits segments pieces) {name : String} {piece : List Char}
    (hpiece : firstPiece segments pieces name = some piece) :
    Segment.placeholder name ∈ segments ∧ piece ≠ [] := by
  obtain ⟨before, after, hzip, -⟩ := List.lookup_eq_some_iff.mp hpiece
  have hmem : (Segment.placeholder name, piece) ∈ segments.zip pieces := by
    rw [hzip]
    exact List.mem_append_right _ List.mem_cons_self
  exact ⟨(List.of_mem_zip hmem).1, List.forall₂_zip h hmem⟩

theorem exists_firstPiece {segments : List Segment} {pieces : List (List Char)}
    (h : List.Forall₂ Segment.Fits segments pieces) {name : String}
    (hmem : Segment.placeholder name ∈ segments) :
    ∃ piece, firstPiece segments pieces name = some piece := by
  have hfst : (segments.zip pieces).map Prod.fst = segments := List.map_fst_zip h.length_eq.le
  obtain ⟨entry, hentry, hname⟩ := List.mem_map.mp (hfst.symm ▸ hmem)
  rw [← Option.isSome_iff_exists, firstPiece, List.lookup_isSome_iff]
  exact ⟨entry, hentry, beq_iff_eq.mpr hname.symm⟩

/-! ## Captures -/

/-- A name keeps what it has, and takes the first piece otherwise. -/
theorem get?_nameCaptures (segments : List Segment) (pieces : List (List Char))
    (captures : Captures) (name : String) :
    (nameCaptures segments pieces captures).get? name =
      (captures.get? name).or ((firstPiece segments pieces name).map String.ofList) := by
  fun_induction nameCaptures segments pieces captures with
  | case1 other segments piece pieces captures ih =>
    rw [ih]
    by_cases hname : name = other
    · subst hname
      rw [firstPiece_cons_self]
      cases htaken : captures.get? name with
      | some value =>
        have hcontains : captures.contains name = true := by rw [NameMap.contains, htaken]; rfl
        rw [if_pos hcontains, htaken, Option.some_or, Option.some_or]
      | none =>
        have hcontains : ¬captures.contains name = true := by rw [NameMap.contains, htaken]; nofun
        rw [if_neg hcontains, NameMap.get?_insert_self, Option.some_or, Option.none_or]
        rfl
    · have hget : (if captures.contains other = true then captures
          else captures.insert other (String.ofList piece)).get? name = captures.get? name := by
        by_cases hcontains : captures.contains other = true
        · rw [if_pos hcontains]
        · rw [if_neg hcontains, NameMap.get?_insert_of_ne captures hname]
      rw [hget, firstPiece_cons_of_ne hname]
  | case2 text segments piece pieces captures ih => rw [ih, firstPiece_cons_literal]
  | case3 segments pieces captures hplaceholder hliteral =>
    -- one of the lists has come to its end
    have hnone : firstPiece segments pieces name = none := by
      match segments, pieces with
      | [], _ => rfl
      | _ :: _, [] => rfl
      | .placeholder other :: _, _ :: _ => exact absurd rfl (hplaceholder _ _ _ _ rfl)
      | .literal text :: _, _ :: _ => exact absurd rfl (hliteral _ _ _ _ rfl)
    rw [hnone, Option.map_none, Option.or_none]

theorem captures?_eq_some_iff {pattern : Pattern} {text : String} {captures : Captures} :
    pattern.captures? text = some captures ↔
      ∃ pieces, IsGreedy pattern.segments pieces text.toList ∧
        nameCaptures pattern.segments pieces ∅ = captures := by
  rw [captures?, Option.map_eq_some_iff]
  exact exists_congr fun pieces ↦ and_congr_left' cut_eq_some_iff

theorem get?_nameCaptures_empty (segments : List Segment) (pieces : List (List Char))
    (name : String) :
    (nameCaptures segments pieces ∅).get? name =
      (firstPiece segments pieces name).map String.ofList := by
  rw [get?_nameCaptures]
  exact Option.none_or

/-- The captures of a match are those of the placeholders. -/
theorem contains_iff_of_captures?_eq_some {pattern : Pattern} {text : String} {captures : Captures}
    (h : pattern.captures? text = some captures) (name : String) :
    captures.contains name = true ↔ name ∈ pattern.placeholders := by
  obtain ⟨pieces, hgreedy, rfl⟩ := captures?_eq_some_iff.mp h
  have hfits := hgreedy.cuts.1
  rw [NameMap.contains, get?_nameCaptures_empty, Option.isSome_map, mem_placeholders_iff,
    Option.isSome_iff_exists]
  exact ⟨fun ⟨_, hpiece⟩ ↦ (firstPiece_ne_nil hfits hpiece).1, exists_firstPiece hfits⟩

/-- No placeholder takes nothing. -/
theorem ne_empty_of_captures?_eq_some {pattern : Pattern} {text : String} {captures : Captures}
    (h : pattern.captures? text = some captures) {name value : String}
    (hvalue : captures.get? name = some value) : value ≠ "" := by
  obtain ⟨pieces, hgreedy, rfl⟩ := captures?_eq_some_iff.mp h
  rw [get?_nameCaptures_empty] at hvalue
  obtain ⟨piece, hpiece, rfl⟩ := Option.map_eq_some_iff.mp hvalue
  have hne := (firstPiece_ne_nil hgreedy.cuts.1 hpiece).2
  rwa [ne_eq, ← String.toList_inj, String.toList_ofList]

/-- Whatever a pattern's placeholder is called, a match has something for it. -/
theorem exists_capture {pattern : Pattern} {text : String} {captures : Captures}
    (h : pattern.captures? text = some captures) {name : String}
    (hname : name ∈ pattern.placeholders) :
    ∃ value, captures.get? name = some value ∧ value ≠ "" := by
  have hcontains := (contains_iff_of_captures?_eq_some h name).mpr hname
  rw [NameMap.contains, Option.isSome_iff_exists] at hcontains
  obtain ⟨value, hvalue⟩ := hcontains
  exact ⟨value, hvalue, ne_empty_of_captures?_eq_some h hvalue⟩

/-! ## Compiled templates -/

theorem compileWith_of_eq_error {fits : Expression → Bool} {template : String}
    {error : TemplateError} (h : Template.segments template = .error error) :
    compileWith fits template = .error (.template error) := by
  rw [compileWith]
  split
  · rename_i found hfound
    rw [Except.error.inj (hfound.symm.trans h)]
  · rename_i found hfound
    cases hfound.symm.trans h

theorem compileWith_of_eq_ok {fits : Expression → Bool} {template : String}
    {segments : List Segment} (h : Template.segments template = .ok segments) :
    compileWith fits template =
      if fits (Expression.ofSegments segments) then .ok ⟨template, segments, h⟩
      else .error .tooLarge := by
  rw [compileWith]
  split
  · rename_i found hfound
    cases hfound.symm.trans h
  · rename_i found hfound
    obtain rfl : found = segments := Except.ok.inj (hfound.symm.trans h)
    rfl

/-- Compiling keeps the template, and it fails for a template that can be read only when the engine
has no room for the expression. -/
theorem compileWith_eq_ok_iff {fits : Expression → Bool} {template : String} {pattern : Pattern} :
    compileWith fits template = .ok pattern ↔
      pattern.source = template ∧ fits (Expression.ofSegments pattern.segments) = true := by
  constructor
  · intro h
    cases hsegments : Template.segments template with
    | error error =>
      rw [compileWith_of_eq_error hsegments] at h
      cases h
    | ok segments =>
      rw [compileWith_of_eq_ok hsegments] at h
      by_cases hfits : fits (Expression.ofSegments segments) = true
      · rw [if_pos hfits] at h
        rw [← Except.ok.inj h]
        exact ⟨rfl, hfits⟩
      · rw [if_neg hfits] at h
        cases h
  · rintro ⟨rfl, hfits⟩
    rw [compileWith_of_eq_ok pattern.segments_eq, if_pos hfits]

theorem compile_eq_ok_iff {template : String} {pattern : Pattern} :
    compile template = .ok pattern ↔ pattern.source = template ∧
      Expression.fits (Expression.ofSegments pattern.segments) = true :=
  compileWith_eq_ok_iff

/-- **A pattern matches exactly the texts that can be cut along its template**, and its captures are
those of the greedy cut. -/
theorem compile_matches {template : String} {pattern : Pattern}
    (h : compile template = .ok pattern) (text : String) :
    Template.segments template = .ok pattern.segments ∧
    (pattern.captures? text).isSome = pattern.isMatch text ∧
    (pattern.isMatch text = true ↔ ∃ pieces, Cuts pattern.segments pieces text.toList) ∧
    ∀ captures, pattern.captures? text = some captures →
      (∃ pieces, IsGreedy pattern.segments pieces text.toList ∧
        ∀ name, captures.get? name =
          (firstPiece pattern.segments pieces name).map String.ofList) ∧
      (∀ name, captures.contains name = true ↔ name ∈ pattern.placeholders) ∧
      ∀ name value, captures.get? name = some value → value ≠ "" := by
  have hsegments : Template.segments template = .ok pattern.segments := by
    rw [← (compile_eq_ok_iff.mp h).1, pattern.segments_eq]
  refine ⟨hsegments, ?_, isSome_cut_iff, fun captures hcaptures ↦ ⟨?_, ?_, ?_⟩⟩
  · rw [captures?, Option.isSome_map, isMatch]
  · obtain ⟨pieces, hgreedy, rfl⟩ := captures?_eq_some_iff.mp hcaptures
    exact ⟨pieces, hgreedy, get?_nameCaptures_empty pattern.segments pieces⟩
  · exact contains_iff_of_captures?_eq_some hcaptures
  · exact fun name value ↦ ne_empty_of_captures?_eq_some hcaptures

/-- The text between the occurrences of a placeholder stands twice in a request, in capitals the
second time. -/
theorem compile_matches_of_repeated :
    ∃ pattern, compile "\x7bx\x7d vs \x7bx\x7d" = .ok pattern ∧
      ∃ captures, pattern.captures? "a vs b VS c" = some captures ∧
        captures.get? "x" = some "a vs b" ∧
        ∀ name, captures.contains name = true ↔ name ∈ pattern.placeholders := by
  let pattern : Pattern := ⟨"\x7bx\x7d vs \x7bx\x7d",
    [.placeholder "x", .literal " vs ", .placeholder "x"], rfl⟩
  have hcompile : compile "\x7bx\x7d vs \x7bx\x7d" = .ok pattern :=
    compile_eq_ok_iff.mpr ⟨rfl, by decide⟩
  have hcut : cut pattern.segments "a vs b VS c".toList =
      some ["a vs b".toList, " VS ".toList, "c".toList] := by decide
  obtain ⟨-, hmatch, -, hcaptures⟩ := compile_matches hcompile "a vs b VS c"
  have hsome : (pattern.captures? "a vs b VS c").isSome = true := by
    rw [hmatch, isMatch, hcut]
    rfl
  obtain ⟨captures, hfound⟩ := Option.isSome_iff_exists.mp hsome
  obtain ⟨⟨pieces, hgreedy, hget⟩, hcontains, -⟩ := hcaptures captures hfound
  obtain rfl : pieces = ["a vs b".toList, " VS ".toList, "c".toList] :=
    Option.some_inj.mp ((cut_eq_some_iff.mpr hgreedy).symm.trans hcut)
  exact ⟨pattern, hcompile, captures, hfound, by rw [hget]; rfl, hcontains⟩

end Phrasebook.Pattern
