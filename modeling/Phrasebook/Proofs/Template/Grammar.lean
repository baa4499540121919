import Mathlib.Data.List.Chain
import Phrasebook.Template

/-!
# The grammar of templates

A template is text without braces and identifiers in braces, in any order. Every such template has
one reading, a list of segments in normal form, and every list in normal form is the reading of the
template that it prints. So reading and printing are inverse to one another, and what cannot be read
is outside the grammar.

## What the scan holds back

While it reads, the scan has characters that are in no segment yet: a run of literal text, or an
opening brace and part of a name. `Place.pending` is this text. The segments found from a place on
print the pending text and then the rest of the template, which is the invariant of the whole scan.
-/

namespace Phrasebook

/-! ## Text without braces -/

/-- No character is a brace. -/
def BraceFree (text : List Char) : Prop := ∀ c ∈ text, c ≠ '{' ∧ c ≠ '}'

theorem braceFree_nil : BraceFree [] := fun _ h ↦ absurd h List.not_mem_nil

theorem braceFree_cons {c : Char} {text : List Char} :
    BraceFree (c :: text) ↔ (c ≠ '{' ∧ c ≠ '}') ∧ BraceFree text := List.forall_mem_cons

theorem braceFree_reverse {text : List Char} : BraceFree text.reverse ↔ BraceFree text := by
  simp only [BraceFree, List.mem_reverse]

theorem isIdentifier_iff {name : List Char} :
    isIdentifier name = true ↔ name ≠ [] ∧ ∀ c ∈ name, isIdentifierChar c = true := by
  simp [isIdentifier]

theorem ne_brace_of_isIdentifierChar {c : Char} (h : isIdentifierChar c = true) :
    c ≠ '{' ∧ c ≠ '}' := by
  constructor <;> rintro rfl <;> exact absurd h (by decide)

theorem BraceFree.of_isIdentifier {name : List Char} (h : isIdentifier name = true) :
    BraceFree name := fun c hc ↦ ne_brace_of_isIdentifierChar ((isIdentifier_iff.mp h).2 c hc)

/-! ## Normal form -/

/-- A segment that a template can have: literal text is there and has no braces, and the name of a
placeholder is an identifier. -/
def Segment.IsProper : Segment → Prop
  | .literal text => text ≠ "" ∧ BraceFree text.toList
  | .placeholder name => isIdentifier name.toList = true

/-- A segment of literal text. -/
def Segment.IsLiteral : Segment → Prop
  | .literal _ => True
  | .placeholder _ => False

namespace Template

/-- The segments are proper, and literal text is not split. -/
structure IsNormal (segments : List Segment) : Prop where
  proper : ∀ segment ∈ segments, segment.IsProper
  apart : segments.IsChain fun first second ↦ ¬(first.IsLiteral ∧ second.IsLiteral)

theorem isNormal_nil : IsNormal [] := ⟨fun _ h ↦ absurd h List.not_mem_nil, List.isChain_nil⟩

theorem IsNormal.tail {segment : Segment} {segments : List Segment}
    (h : IsNormal (segment :: segments)) : IsNormal segments :=
  ⟨fun other hother ↦ h.proper other (List.mem_cons_of_mem segment hother), h.apart.tail⟩

/-- A proper placeholder may stand before any normal list. -/
theorem IsNormal.cons_placeholder {name : String} {segments : List Segment}
    (hname : isIdentifier name.toList = true) (h : IsNormal segments) :
    IsNormal (.placeholder name :: segments) := by
  refine ⟨List.forall_mem_cons.mpr ⟨hname, h.proper⟩, ?_⟩
  exact List.isChain_cons.mpr ⟨fun _ _ hboth ↦ hboth.1, h.apart⟩

/-- A proper literal may stand before a normal list that does not start with another one. -/
theorem IsNormal.cons_literal {text : String} {segments : List Segment}
    (htext : (Segment.literal text).IsProper) (h : IsNormal segments)
    (hhead : ∀ segment ∈ segments.head?, ¬segment.IsLiteral) :
    IsNormal (.literal text :: segments) := by
  refine ⟨List.forall_mem_cons.mpr ⟨htext, h.proper⟩, ?_⟩
  exact List.isChain_cons.mpr ⟨fun segment hsegment hboth ↦ hhead segment hsegment hboth.2, h.apart⟩

/-! ## The scan on text that it can read -/

/-- The number of bytes of some characters. -/
def byteCount : List Char → Nat
  | [] => 0
  | c :: text => c.utf8Size + byteCount text

@[simp] theorem byteCount_nil : byteCount [] = 0 := rfl

@[simp] theorem byteCount_cons (c : Char) (text : List Char) :
    byteCount (c :: text) = c.utf8Size + byteCount text := rfl

@[simp] theorem byteCount_append (text rest : List Char) :
    byteCount (text ++ rest) = byteCount text + byteCount rest := by
  induction text with
  | nil => simp
  | cons c text ih => rw [List.cons_append, byteCount_cons, ih, byteCount_cons, Nat.add_assoc]

/-- The place after reading characters that are no braces. -/
def Place.read (text : List Char) : Place → Place
  | .literal run => .literal (text.reverse ++ run)
  | .name opened run => .name opened (text.reverse ++ run)

theorem Place.read_read (first second : List Char) (place : Place) :
    (place.read first).read second = place.read (first ++ second) := by
  cases place <;> simp only [Place.read, List.reverse_append, List.append_assoc]

/-- A character that is no brace goes to the run, wherever the scan stands. -/
theorem scan_cons {c : Char} (h : c ≠ '{' ∧ c ≠ '}') (position : Nat) (place : Place)
    (rest : List Char) :
    scan position place (c :: rest) = scan (position + c.utf8Size) (place.read [c]) rest := by
  cases place with
  | literal run =>
    rw [scan, if_neg h.1, if_neg h.2]
    rfl
  | name opened run =>
    rw [scan, if_neg h.2, if_neg h.1]
    rfl

/-- So does text without braces. -/
theorem scan_append {text : List Char} (h : BraceFree text) (position : Nat) (place : Place)
    (rest : List Char) :
    scan position place (text ++ rest) =
      scan (position + byteCount text) (place.read text) rest := by
  induction text generalizing position place with
  | nil => cases place <;> rfl
  | cons c text ih =>
    obtain ⟨hc, htext⟩ := braceFree_cons.mp h
    rw [List.cons_append, scan_cons hc, ih htext, Place.read_read, byteCount_cons, Nat.add_assoc]
    rfl

/-- A run ends where the template does or where a brace opens. -/
theorem scan_literal (position : Nat) (run : List Char) {text : List Char}
    (h : text = [] ∨ ∃ rest, text = '{' :: rest) :
    scan position (.literal run) text =
      (scan position (.literal []) text).map (literalSegment run ++ ·) := by
  rcases h with rfl | ⟨rest, rfl⟩
  · simp [scan, literalSegment, Except.map]
  · rw [scan, scan, if_pos rfl, if_pos rfl]
    cases scan (position + '{'.utf8Size) (.name position []) rest <;> rfl

/-- An identifier in braces is a placeholder. -/
theorem scan_placeholder {name : List Char} (h : isIdentifier name = true) (position : Nat)
    (rest : List Char) :
    scan position (.literal []) ('{' :: (name ++ '}' :: rest)) =
      (scan (position + byteCount ('{' :: (name ++ ['}']))) (.literal []) rest).map
        (.placeholder (String.ofList name) :: ·) := by
  have hname : ¬(name.reverse ++ []).isEmpty = true := by simpa using (isIdentifier_iff.mp h).1
  have hcount : position + '{'.utf8Size + byteCount name + '}'.utf8Size =
      position + byteCount ('{' :: (name ++ ['}'])) := by
    simp only [byteCount_cons, byteCount_append, byteCount_nil, Nat.add_assoc, Nat.add_zero]
  rw [scan, if_pos rfl, scan_append (.of_isIdentifier h), Place.read, scan, if_pos rfl,
    if_neg hname, List.append_nil, List.reverse_reverse, if_pos h, hcount]
  cases scan (position + byteCount ('{' :: (name ++ ['}']))) (.literal []) rest <;> rfl

/-! ## Reading what was printed -/

/-- A normal list that does not start with literal text is printed with a brace in front. -/
theorem flatMap_segmentChars_cases {segments : List Segment}
    (h : ∀ segment ∈ segments.head?, ¬segment.IsLiteral) :
    segments.flatMap segmentChars = [] ∨ ∃ rest, segments.flatMap segmentChars = '{' :: rest := by
  match segments with
  | [] => exact Or.inl rfl
  | .literal text :: _ => exact absurd trivial (h (.literal text) rfl)
  | .placeholder _ :: _ => exact Or.inr ⟨_, rfl⟩

theorem IsNormal.head_tail {text : String} {segments : List Segment}
    (h : IsNormal (.literal text :: segments)) :
    ∀ segment ∈ segments.head?, ¬segment.IsLiteral := fun segment hsegment hliteral ↦
  (List.isChain_cons.mp h.apart).1 segment hsegment ⟨trivial, hliteral⟩

theorem scan_flatMap_segmentChars {segments : List Segment} (h : IsNormal segments)
    (position : Nat) :
    scan position (.literal []) (segments.flatMap segmentChars) = .ok segments := by
  induction segments generalizing position with
  | nil => rfl
  | cons segment segments ih =>
    rw [List.flatMap_cons]
    cases segment with
    | literal text =>
      obtain ⟨hne, hfree⟩ := h.proper (.literal text) List.mem_cons_self
      have hrun : ¬text.toList.reverse.isEmpty = true := by simpa using hne
      rw [segmentChars, scan_append hfree, Place.read, List.append_nil,
        scan_literal _ _ (flatMap_segmentChars_cases h.head_tail), ih h.tail, literalSegment,
        if_neg hrun, List.reverse_reverse, String.ofList_toList]
      rfl
    | placeholder name =>
      have hname : isIdentifier name.toList = true :=
        h.proper (.placeholder name) List.mem_cons_self
      rw [segmentChars, List.cons_append, List.append_assoc, List.singleton_append,
        scan_placeholder hname, ih h.tail, String.ofList_toList]
      rfl

/-! ## Printing what was read -/

/-- The characters that were read and are in no segment yet. -/
def Place.pending : Place → List Char
  | .literal run => run.reverse
  | .name _ run => '{' :: run.reverse

/-- The run of a place. -/
def Place.run : Place → List Char
  | .literal run | .name _ run => run

/-- Inside braces the next segment can only be a placeholder. -/
def Place.Admits : Place → List Segment → Prop
  | .literal _, _ => True
  | .name _ _, segments => ∃ name rest, segments = .placeholder name :: rest

theorem isNormal_literalSegment_append {run : List Char} {segments : List Segment}
    (hrun : BraceFree run) (h : IsNormal segments)
    (hhead : ∀ segment ∈ segments.head?, ¬segment.IsLiteral) :
    IsNormal (literalSegment run ++ segments) := by
  rw [literalSegment]
  by_cases hempty : run.isEmpty = true
  · rw [if_pos hempty]
    exact h
  · rw [if_neg hempty]
    refine h.cons_literal ⟨by simpa using hempty, ?_⟩ hhead
    rw [String.toList_ofList]
    exact braceFree_reverse.mpr hrun

theorem flatMap_segmentChars_literalSegment (run : List Char) :
    (literalSegment run).flatMap segmentChars = run.reverse := by
  rw [literalSegment]
  by_cases hempty : run = []
  · subst hempty
    rfl
  · rw [if_neg (by simpa using hempty), List.flatMap_singleton, segmentChars, String.toList_ofList]

theorem exists_of_map_eq_ok {ε α β : Type} {f : α → β} {result : Except ε α} {b : β}
    (h : result.map f = .ok b) : ∃ a, result = .ok a ∧ f a = b := by
  cases result with
  | error e => cases h
  | ok a => exact ⟨a, rfl, Except.ok.inj h⟩

/-- **The invariant of the scan.** What it finds from a place on is normal, and it prints what was
pending and all that followed. -/
theorem isNormal_of_scan_eq_ok {position : Nat} {place : Place} {text : List Char}
    {segments : List Segment} (hrun : BraceFree place.run)
    (h : scan position place text = .ok segments) :
    IsNormal segments ∧ place.Admits segments ∧
      segments.flatMap segmentChars = place.pending ++ text := by
  fun_induction scan position place text generalizing segments with
  | case1 position run =>
    obtain rfl := Except.ok.inj h
    have hnormal := isNormal_literalSegment_append hrun isNormal_nil fun _ h ↦ absurd h nofun
    rw [List.append_nil] at hnormal
    exact ⟨hnormal, trivial, by rw [flatMap_segmentChars_literalSegment, List.append_nil]; rfl⟩
  | case2 => cases h
  | case3 position run rest ih =>
    obtain ⟨found, hfound, rfl⟩ := exists_of_map_eq_ok h
    obtain ⟨hnormal, ⟨name, others, rfl⟩, hprint⟩ := ih braceFree_nil hfound
    -- a placeholder comes first, so the run before the brace is a literal of its own
    have hhead : ∀ segment ∈ (Segment.placeholder name :: others).head?, ¬segment.IsLiteral := by
      rintro _ ⟨⟩
      exact id
    refine ⟨isNormal_literalSegment_append hrun hnormal hhead, trivial, ?_⟩
    rw [List.flatMap_append, flatMap_segmentChars_literalSegment, hprint]
    rfl
  | case4 => cases h
  | case5 position run c rest hopen hclose ih =>
    obtain ⟨hnormal, -, hprint⟩ := ih (braceFree_cons.mpr ⟨⟨hopen, hclose⟩, hrun⟩) h
    refine ⟨hnormal, trivial, ?_⟩
    rw [hprint, Place.pending, Place.pending, List.reverse_cons, List.append_assoc]
    rfl
  | case6 => cases h
  | case7 position opened run rest hne hname ih =>
    obtain ⟨found, hfound, rfl⟩ := exists_of_map_eq_ok h
    obtain ⟨hnormal, -, hprint⟩ := ih braceFree_nil hfound
    have hproper : isIdentifier (String.ofList run.reverse).toList = true := by
      rwa [String.toList_ofList]
    refine ⟨hnormal.cons_placeholder hproper, ⟨_, _, rfl⟩, ?_⟩
    rw [List.flatMap_cons, hprint, segmentChars, String.toList_ofList, Place.pending,
      Place.pending, List.reverse_nil, List.nil_append, List.cons_append, List.append_assoc]
    rfl
  | case8 => cases h
  | case9 => cases h
  | case10 position opened run c rest hclose hopen ih =>
    obtain ⟨hnormal, hadmits, hprint⟩ := ih (braceFree_cons.mpr ⟨⟨hopen, hclose⟩, hrun⟩) h
    refine ⟨hnormal, hadmits, ?_⟩
    rw [hprint, Place.pending, Place.pending, List.reverse_cons, List.cons_append, List.cons_append,
      List.append_assoc]
    rfl

/-! ## The grammar -/

/-- Reading and printing are inverse to one another. -/
theorem segments_eq_ok_iff {template : String} {found : List Segment} :
    segments template = .ok found ↔ IsNormal found ∧ print found = template := by
  constructor
  · intro h
    have hstart : BraceFree (Place.literal []).run := braceFree_nil
    obtain ⟨hnormal, -, hprint⟩ := isNormal_of_scan_eq_ok hstart h
    refine ⟨hnormal, ?_⟩
    rw [print, hprint, Place.pending, List.reverse_nil, List.nil_append, String.ofList_toList]
  · rintro ⟨hnormal, rfl⟩
    rw [segments, print, String.toList_ofList, scan_flatMap_segmentChars hnormal]

/-- Text without braces and identifiers in braces, one after another. -/
def IsWritten (template : List Char) : Prop :=
  ∃ pieces : List (List Char),
    (∀ piece ∈ pieces, BraceFree piece ∨
      ∃ name, isIdentifier name = true ∧ piece = '{' :: (name ++ ['}'])) ∧
    pieces.flatten = template

theorem isWritten_of_isNormal {segments : List Segment} (h : IsNormal segments) :
    IsWritten (segments.flatMap segmentChars) := by
  refine ⟨segments.map segmentChars, ?_, by rw [List.flatMap]⟩
  intro piece hpiece
  obtain ⟨segment, hsegment, rfl⟩ := List.mem_map.mp hpiece
  cases segment with
  | literal text => exact Or.inl (h.proper _ hsegment).2
  | placeholder name => exact Or.inr ⟨name.toList, h.proper _ hsegment, rfl⟩

/-- The pieces of a template need not be its segments: text may be split, and it may be empty. -/
theorem exists_scan_eq_ok {pieces : List (List Char)}
    (h : ∀ piece ∈ pieces, BraceFree piece ∨
      ∃ name, isIdentifier name = true ∧ piece = '{' :: (name ++ ['}']))
    (position : Nat) (run : List Char) :
    ∃ segments, scan position (.literal run) pieces.flatten = .ok segments := by
  induction pieces generalizing position run with
  | nil => exact ⟨literalSegment run, rfl⟩
  | cons piece pieces ih =>
    obtain ⟨hpiece, hpieces⟩ := List.forall_mem_cons.mp h
    rw [List.flatten_cons]
    rcases hpiece with hfree | ⟨name, hname, rfl⟩
    · rw [scan_append hfree]
      exact ih hpieces _ _
    · obtain ⟨segments, hsegments⟩ := ih hpieces (position + byteCount ('{' :: (name ++ ['}']))) []
      rw [List.cons_append, List.append_assoc, List.singleton_append,
        scan_literal _ _ (Or.inr ⟨_, rfl⟩), scan_placeholder hname, hsegments]
      exact ⟨_, rfl⟩

/-- **The grammar.** Exactly the text made of text without braces and identifiers in braces can be
read, and it has one reading: the list in normal form that prints it. -/
theorem segments_grammar (template : String) :
    ((∃ found, segments template = .ok found) ↔ IsWritten template.toList) ∧
    (∀ found, segments template = .ok found → IsNormal found ∧ print found = template) ∧
    ∀ found, IsNormal found → segments (print found) = .ok found := by
  refine ⟨⟨?_, ?_⟩, fun found ↦ segments_eq_ok_iff.mp,
    fun found hnormal ↦ segments_eq_ok_iff.mpr ⟨hnormal, rfl⟩⟩
  · rintro ⟨found, hfound⟩
    obtain ⟨hnormal, rfl⟩ := segments_eq_ok_iff.mp hfound
    rw [print, String.toList_ofList]
    exact isWritten_of_isNormal hnormal
  · rintro ⟨pieces, hpieces, hflatten⟩
    rw [segments, ← hflatten]
    exact exists_scan_eq_ok hpieces 0 []

/-- Split text is printed like whole text, but only whole text is read. -/
example : segments (print [.literal "my ", .literal "tasks", .placeholder "n"]) =
    .ok [.literal "my tasks", .placeholder "n"] := by decide

end Template

end Phrasebook
