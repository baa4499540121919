import Phrasebook.Proofs.Template.Grammar

/-!
# Faults of templates

A template that cannot be read has one fault, the first that a reader meets who goes through it from
the left. `TemplateError.Explains` says of each fault what it asserts about the template, without
the scan: up to some byte the template can be read, and what starts there is no piece of a template.
The fault that is reported is the one fault that can be asserted (`segments_eq_error_iff`).

## What was read

Both directions follow the scan through text that it can read. When it has read such text the scan
is in literal text again, at the byte where that text ends, so whatever comes next decides
(`scan_flatten_append`). And the scan never stands anywhere else: outside of braces it has read such
text, and inside of braces it has read such text, an opening brace and text without braces
(`Place.Reached`). That is the invariant.
-/

namespace Phrasebook

open Template

/-- The text can be read as a template and ends at the given byte. -/
structure Template.ReadsTo (before : List Char) (position : Nat) : Prop where
  readable : ∃ found, segments (String.ofList before) = .ok found
  size_eq : (String.ofList before).utf8ByteSize = position

/-- What a fault asserts about a template. -/
def TemplateError.Explains (template : List Char) : TemplateError → Prop
  | unmatchedBrace p => ∃ before after, template = before ++ '}' :: after ∧ ReadsTo before p
  | unclosedBrace p => ∃ before after, template = before ++ '{' :: after ∧ ReadsTo before p ∧
      BraceFree after
  | emptyPlaceholder p => ∃ before after, template = before ++ '{' :: '}' :: after ∧
      ReadsTo before p
  | invalidName name p => ∃ before after,
      template = before ++ '{' :: (name.toList ++ '}' :: after) ∧
      ReadsTo before p ∧ name ≠ "" ∧ BraceFree name.toList ∧ isIdentifier name.toList = false
  | nestedBrace p => ∃ before text after, template = before ++ '{' :: (text ++ '{' :: after) ∧
      (∃ q, ReadsTo before q) ∧ BraceFree text ∧
      (String.ofList (before ++ '{' :: text)).utf8ByteSize = p

namespace Template

/-! ## Text that can be read -/

theorem utf8ByteSize_ofList (text : List Char) :
    (String.ofList text).utf8ByteSize = byteCount text := by
  induction text with
  | nil => rfl
  | cons c text ih =>
    rw [String.ofList_cons, String.utf8ByteSize_append, String.utf8ByteSize_singleton, ih,
      byteCount_cons]

theorem exists_segments_eq_ok_iff {template : String} :
    (∃ found, segments template = .ok found) ↔ IsWritten template.toList := by
  constructor
  · rintro ⟨found, hfound⟩
    obtain ⟨hnormal, rfl⟩ := segments_eq_ok_iff.mp hfound
    rw [print, String.toList_ofList]
    exact isWritten_of_isNormal hnormal
  · rintro ⟨pieces, hpieces, hflatten⟩
    rw [segments, ← hflatten]
    exact exists_scan_eq_ok hpieces 0 []

theorem readsTo_iff {before : List Char} {position : Nat} :
    ReadsTo before position ↔ IsWritten before ∧ position = byteCount before := by
  constructor
  · rintro ⟨hreadable, rfl⟩
    rw [exists_segments_eq_ok_iff, String.toList_ofList] at hreadable
    exact ⟨hreadable, utf8ByteSize_ofList before⟩
  · rintro ⟨hwritten, rfl⟩
    refine ⟨exists_segments_eq_ok_iff.mpr ?_, utf8ByteSize_ofList before⟩
    rwa [String.toList_ofList]

theorem isWritten_nil : IsWritten [] := ⟨[], fun _ h ↦ absurd h List.not_mem_nil, rfl⟩

theorem IsWritten.append_braceFree {before text : List Char} (h : IsWritten before)
    (htext : BraceFree text) : IsWritten (before ++ text) := by
  obtain ⟨pieces, hpieces, rfl⟩ := h
  refine ⟨pieces ++ [text], List.forall_mem_append.mpr ⟨hpieces, ?_⟩, List.flatten_concat⟩
  exact List.forall_mem_singleton.mpr (.inl htext)

theorem IsWritten.append_placeholder {before name : List Char} (h : IsWritten before)
    (hname : isIdentifier name = true) : IsWritten (before ++ '{' :: (name ++ ['}'])) := by
  obtain ⟨pieces, hpieces, rfl⟩ := h
  refine ⟨pieces ++ ['{' :: (name ++ ['}'])], List.forall_mem_append.mpr ⟨hpieces, ?_⟩,
    List.flatten_concat⟩
  exact List.forall_mem_singleton.mpr (.inr ⟨name, hname, rfl⟩)

theorem except_map_map {ε α β γ : Type} (f : α → β) (g : β → γ) (result : Except ε α) :
    (result.map f).map g = result.map (g ∘ f) := by
  cases result <;> rfl

/-- Text that can be read brings the scan to where it ends, in literal text. -/
theorem scan_flatten_append {pieces : List (List Char)}
    (h : ∀ piece ∈ pieces, BraceFree piece ∨
      ∃ name, isIdentifier name = true ∧ piece = '{' :: (name ++ ['}']))
    (position : Nat) (run : List Char) :
    ∃ found run', ∀ rest, scan position (.literal run) (pieces.flatten ++ rest) =
      (scan (position + byteCount pieces.flatten) (.literal run') rest).map (found ++ ·) := by
  induction pieces generalizing position run with
  | nil =>
    refine ⟨[], run, fun rest ↦ ?_⟩
    rw [List.flatten_nil, List.nil_append, byteCount_nil, Nat.add_zero]
    cases scan position (.literal run) rest <;> rfl
  | cons piece pieces ih =>
    obtain ⟨hpiece, hpieces⟩ := List.forall_mem_cons.mp h
    rcases hpiece with hfree | ⟨name, hname, rfl⟩
    · obtain ⟨found, run', hscan⟩ := ih hpieces (position + byteCount piece) (piece.reverse ++ run)
      refine ⟨found, run', fun rest ↦ ?_⟩
      rw [List.flatten_cons, List.append_assoc, scan_append hfree, Place.read, hscan,
        byteCount_append, Nat.add_assoc]
    · obtain ⟨found, run', hscan⟩ :=
        ih hpieces (position + byteCount ('{' :: (name ++ ['}']))) []
      refine ⟨literalSegment run ++ ([.placeholder (String.ofList name)] ++ found), run',
        fun rest ↦ ?_⟩
      rw [List.flatten_cons, List.append_assoc, List.cons_append, List.append_assoc,
        List.singleton_append, scan_literal _ _ (.inr ⟨_, rfl⟩), scan_placeholder hname, hscan,
        byteCount_append, Nat.add_assoc, except_map_map, except_map_map]
      refine congrArg (Except.map · _) (funext fun segments ↦ ?_)
      simp only [Function.comp_apply, List.append_assoc, List.cons_append, List.nil_append]

/-! ## What a fault tells -/

theorem map_eq_error_iff {ε α β : Type} {f : α → β} {result : Except ε α} {e : ε} :
    result.map f = .error e ↔ result = .error e := by
  cases result <;> simp [Except.map]

/-- What the scan has read when it stands at a place. -/
def Place.Reached (before : List Char) : Place → Prop
  | .literal _ => IsWritten before
  | .name opened run => ∃ written, before = written ++ '{' :: run.reverse ∧
      ReadsTo written opened ∧ BraceFree run

/-- A fault that the scan reports can be asserted. -/
theorem explains_of_scan_eq_error {position : Nat} {place : Place} {before text : List Char}
    {error : TemplateError} (hplace : place.Reached before)
    (hposition : position = byteCount before) (h : scan position place text = .error error) :
    error.Explains (before ++ text) := by
  fun_induction scan position place text generalizing before with
  | case1 => cases h
  | case2 position opened run =>
    obtain rfl := Except.error.inj h
    obtain ⟨written, rfl, hwritten, hrun⟩ := hplace
    rw [List.append_nil]
    exact ⟨written, run.reverse, rfl, hwritten, braceFree_reverse.mpr hrun⟩
  | case3 position run rest ih =>
    rw [map_eq_error_iff] at h
    rw [List.append_cons]
    refine ih ⟨before, rfl, readsTo_iff.mpr ⟨hplace, hposition⟩, braceFree_nil⟩ ?_ h
    rw [hposition, byteCount_append]
    rfl
  | case4 position run rest hopen =>
    obtain rfl := Except.error.inj h
    exact ⟨before, rest, rfl, readsTo_iff.mpr ⟨hplace, hposition⟩⟩
  | case5 position run c rest hopen hclose ih =>
    rw [List.append_cons]
    have hfree : BraceFree [c] := braceFree_cons.mpr ⟨⟨hopen, hclose⟩, braceFree_nil⟩
    refine ih (hplace.append_braceFree hfree) ?_ h
    rw [hposition, byteCount_append, byteCount_cons, byteCount_nil, Nat.add_zero]
  | case6 position opened run rest hempty =>
    obtain rfl := Except.error.inj h
    obtain ⟨written, rfl, hwritten, -⟩ := hplace
    obtain rfl := List.isEmpty_iff.mp hempty
    exact ⟨written, rest, by simp, hwritten⟩
  | case7 position opened run rest hne hname ih =>
    rw [map_eq_error_iff] at h
    obtain ⟨written, rfl, hwritten, -⟩ := hplace
    rw [List.append_cons]
    refine ih ?_ ?_ h
    · rw [Place.Reached, List.append_assoc, List.cons_append]
      exact (readsTo_iff.mp hwritten).1.append_placeholder hname
    · rw [hposition, byteCount_append _ ['}']]
      rfl
  | case8 position opened run rest hne hname =>
    obtain rfl := Except.error.inj h
    obtain ⟨written, rfl, hwritten, hrun⟩ := hplace
    refine ⟨written, rest, ?_, hwritten, ?_, ?_, ?_⟩
    · rw [String.toList_ofList, List.append_assoc, List.cons_append]
    · simpa using hne
    · rw [String.toList_ofList]
      exact braceFree_reverse.mpr hrun
    · rw [String.toList_ofList]
      exact Bool.eq_false_iff.mpr hname
  | case9 position opened run rest hclose =>
    obtain rfl := Except.error.inj h
    obtain ⟨written, rfl, hwritten, hrun⟩ := hplace
    refine ⟨written, run.reverse, rest, ?_, ⟨opened, hwritten⟩, braceFree_reverse.mpr hrun, ?_⟩
    · rw [List.append_assoc, List.cons_append]
    · rw [utf8ByteSize_ofList, hposition]
  | case10 position opened run c rest hclose hopen ih =>
    obtain ⟨written, rfl, hwritten, hrun⟩ := hplace
    rw [List.append_cons]
    refine ih ⟨written, ?_, hwritten, braceFree_cons.mpr ⟨⟨hopen, hclose⟩, hrun⟩⟩ ?_ h
    · rw [List.reverse_cons, List.append_assoc, List.cons_append]
    · rw [hposition, byteCount_append _ [c], byteCount_cons c, byteCount_nil, Nat.add_zero]

/-- Text that can be read takes no part in a fault behind it. -/
theorem exists_scan_append_eq_error_iff {before : List Char} {position : Nat}
    (h : ReadsTo before position) : ∃ run, ∀ rest error,
      scan 0 (.literal []) (before ++ rest) = .error error ↔
        scan position (.literal run) rest = .error error := by
  obtain ⟨⟨pieces, hpieces, rfl⟩, rfl⟩ := readsTo_iff.mp h
  obtain ⟨found, run, hscan⟩ := scan_flatten_append hpieces 0 []
  refine ⟨run, fun rest error ↦ ?_⟩
  rw [hscan, Nat.zero_add, map_eq_error_iff]

/-- A brace opens in literal text. -/
theorem scan_open_eq_error_iff {position : Nat} {run rest : List Char} {error : TemplateError} :
    scan position (.literal run) ('{' :: rest) = .error error ↔
      scan (position + '{'.utf8Size) (.name position []) rest = .error error := by
  rw [scan, if_pos rfl, map_eq_error_iff]

/-- A fault that can be asserted is reported. -/
theorem scan_eq_error_of_explains {template : List Char} {error : TemplateError}
    (h : error.Explains template) : scan 0 (.literal []) template = .error error := by
  cases error with
  | unmatchedBrace p =>
    obtain ⟨before, after, rfl, hreads⟩ := h
    obtain ⟨run, hscan⟩ := exists_scan_append_eq_error_iff hreads
    rw [hscan, scan, if_neg (by decide), if_pos rfl]
  | unclosedBrace p =>
    obtain ⟨before, after, rfl, hreads, hfree⟩ := h
    obtain ⟨run, hscan⟩ := exists_scan_append_eq_error_iff hreads
    rw [hscan, scan_open_eq_error_iff, ← List.append_nil after, scan_append hfree]
    rfl
  | emptyPlaceholder p =>
    obtain ⟨before, after, rfl, hreads⟩ := h
    obtain ⟨run, hscan⟩ := exists_scan_append_eq_error_iff hreads
    rw [hscan, scan_open_eq_error_iff, scan, if_pos rfl, if_pos List.isEmpty_nil]
  | invalidName name p =>
    obtain ⟨before, after, rfl, hreads, hne, hfree, hname⟩ := h
    obtain ⟨run, hscan⟩ := exists_scan_append_eq_error_iff hreads
    have hread : ¬(name.toList.reverse ++ []).isEmpty = true := by simpa using hne
    rw [hscan, scan_open_eq_error_iff, scan_append hfree, Place.read, scan, if_pos rfl,
      if_neg hread, List.append_nil, List.reverse_reverse, if_neg (Bool.eq_false_iff.mp hname),
      String.ofList_toList]
  | nestedBrace p =>
    obtain ⟨before, text, after, rfl, ⟨q, hreads⟩, hfree, rfl⟩ := h
    obtain ⟨run, hscan⟩ := exists_scan_append_eq_error_iff hreads
    rw [hscan, scan_open_eq_error_iff, scan_append hfree, Place.read, scan, if_neg (by decide),
      if_pos rfl, utf8ByteSize_ofList, byteCount_append, byteCount_cons,
      ← (readsTo_iff.mp hreads).2, Nat.add_assoc]

/-- **The fault that is reported** is the one that can be asserted. -/
theorem segments_eq_error_iff {template : String} {error : TemplateError} :
    segments template = .error error ↔ error.Explains template.toList := by
  refine ⟨fun h ↦ ?_, scan_eq_error_of_explains⟩
  have hstart : Place.Reached [] (.literal []) := isWritten_nil
  exact explains_of_scan_eq_error hstart rfl h

/-- A byte up to which whole characters are counted stands between two characters. -/
theorem isValid_of_eq_append {template : String} {before after : List Char} {position : Nat}
    (h : template.toList = before ++ after)
    (hsize : (String.ofList before).utf8ByteSize = position) :
    (⟨position⟩ : String.Pos.Raw).IsValid template := by
  refine String.Pos.Raw.isValid_iff_exists_take_toList.mpr ⟨before.length, ?_⟩
  rw [h, List.take_left, hsize]

/-- Every fault stands between two characters. -/
theorem isValid_position {template : String} {error : TemplateError}
    (h : error.Explains template.toList) :
    (⟨error.position⟩ : String.Pos.Raw).IsValid template := by
  cases error with
  | unmatchedBrace p =>
    obtain ⟨before, after, htemplate, hreads⟩ := h
    exact isValid_of_eq_append htemplate hreads.size_eq
  | unclosedBrace p =>
    obtain ⟨before, after, htemplate, hreads, -⟩ := h
    exact isValid_of_eq_append htemplate hreads.size_eq
  | emptyPlaceholder p =>
    obtain ⟨before, after, htemplate, hreads⟩ := h
    exact isValid_of_eq_append htemplate hreads.size_eq
  | invalidName name p =>
    obtain ⟨before, after, htemplate, hreads, -⟩ := h
    exact isValid_of_eq_append htemplate hreads.size_eq
  | nestedBrace p =>
    obtain ⟨before, text, after, htemplate, -, -, hsize⟩ := h
    rw [← List.cons_append, ← List.append_assoc] at htemplate
    exact isValid_of_eq_append htemplate hsize

/-- **Faults of templates.** Every text is either written as the grammar says or has exactly one
fault. That one is reported, and its byte stands between two characters. -/
theorem segments_faults (template : String) :
    (∀ error, segments template = .error error ↔ error.Explains template.toList) ∧
      (¬IsWritten template.toList ↔ ∃! error : TemplateError, error.Explains template.toList) ∧
      ∀ error : TemplateError, error.Explains template.toList →
        (⟨error.position⟩ : String.Pos.Raw).IsValid template := by
  refine ⟨fun error ↦ segments_eq_error_iff, ?_, fun error ↦ isValid_position⟩
  rw [← exists_segments_eq_ok_iff]
  constructor
  · intro hnone
    cases hread : segments template with
    | ok found => exact absurd ⟨found, hread⟩ hnone
    | error error =>
      refine ⟨error, segments_eq_error_iff.mp hread, fun other hother ↦ ?_⟩
      exact Except.error.inj ((segments_eq_error_iff.mpr hother).symm.trans hread)
  · rintro ⟨error, herror, -⟩ ⟨found, hfound⟩
    have hread := segments_eq_error_iff.mpr herror
    rw [hfound] at hread
    cases hread

example : segments "é{a}{b c}" = .error (.invalidName "b c" 5) := rfl

end Template

end Phrasebook
