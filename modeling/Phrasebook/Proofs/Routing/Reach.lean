import Phrasebook.Proofs.Pattern.Filled
import Phrasebook.Proofs.Routing.Case
import Phrasebook.Proofs.Snapshot.Accounting
import Phrasebook.Proofs.Template.Grammar
import Phrasebook.Proofs.Text.Blank

/-!
# Phrases that can be said

A request is trimmed before it is matched, with or without its opener, and a phrase is not. So a
phrase without text, or with a blank at one of its ends, is never met: whatever text has its form is
blank at that end, too. The check of an alias does not look for this. Every other phrase can be
said, and the simplest way to say it is to repeat it as it is written, braces and all, since a
reference to a placeholder is text that the placeholder can take.

## Both ends

A piece of the text and its segment of the phrase are blank at the same ends, because no blank has a
case and neither brace is a blank. `Frames` says this of a part of the phrase and a part of the text
in such a way that it is kept when parts are put together.
-/

namespace Phrasebook

open Text Template

/-! ## Ends of texts -/

/-- Where the outer text ends in a blank, the inner one does, and they are empty together. -/
structure Text.Frames (outer inner : List Char) : Prop where
  eq_nil_iff : outer = [] ↔ inner = []
  head : ∀ c ∈ outer.head?, isBlank c = true → ∃ d ∈ inner.head?, isBlank d = true
  last : ∀ c ∈ outer.getLast?, isBlank c = true → ∃ d ∈ inner.getLast?, isBlank d = true

namespace Text

theorem frames_nil : Frames [] [] := ⟨Iff.rfl, nofun, nofun⟩

theorem Frames.append {outer inner outer' inner' : List Char} (h : Frames outer inner)
    (h' : Frames outer' inner') : Frames (outer ++ outer') (inner ++ inner') := by
  refine ⟨?_, fun c hc hblank ↦ ?_, fun c hc hblank ↦ ?_⟩
  · rw [List.append_eq_nil_iff, List.append_eq_nil_iff, h.eq_nil_iff, h'.eq_nil_iff]
  · cases outer with
    | nil =>
      obtain rfl := h.eq_nil_iff.mp rfl
      exact h'.head c hc hblank
    | cons first outer =>
      obtain ⟨d, hd, hdblank⟩ := h.head c hc hblank
      exact ⟨d, by rw [List.head?_append, hd, Option.some_or]; rfl, hdblank⟩
  · by_cases hnil : outer' = []
    · obtain rfl := hnil
      obtain rfl := h'.eq_nil_iff.mp rfl
      rw [List.append_nil] at hc ⊢
      exact h.last c hc hblank
    · have hnil' : inner' ≠ [] := mt h'.eq_nil_iff.mpr hnil
      rw [List.getLast?_append_of_ne_nil _ hnil] at hc
      rw [List.getLast?_append_of_ne_nil _ hnil']
      exact h'.last c hc hblank

/-- If the inner text is trimmed, the outer one is. -/
theorem Frames.isTight {outer inner : List Char} (h : Frames outer inner) (hinner : IsTight inner) :
    IsTight outer := by
  refine ⟨fun c hc ↦ Bool.eq_false_iff.mpr fun hblank ↦ ?_,
    fun c hc ↦ Bool.eq_false_iff.mpr fun hblank ↦ ?_⟩
  · obtain ⟨d, hd, hdblank⟩ := h.head c hc hblank
    exact Bool.false_ne_true ((hinner.1 d hd).symm.trans hdblank)
  · obtain ⟨d, hd, hdblank⟩ := h.last c hc hblank
    exact Bool.false_ne_true ((hinner.2 d hd).symm.trans hdblank)

/-- A text starts with a blank in any case. -/
theorem exists_head?_isBlank {first second : List Char}
    (h : List.Forall₂ (fun a b ↦ fold a = fold b) first second) :
    ∀ c ∈ first.head?, isBlank c = true → ∃ d ∈ second.head?, isBlank d = true := by
  cases h with
  | nil => exact nofun
  | @cons a b first second hfold hrest =>
    rintro c ⟨⟩ hblank
    exact ⟨b, rfl, (isBlank_eq_of_fold_eq hfold).symm.trans hblank⟩

end Text

/-! ## Segments and their pieces -/

theorem Segment.Fits.frames {segment : Segment} {piece : List Char} (h : segment.Fits piece) :
    Frames (segmentChars segment) piece := by
  cases segment with
  | literal text =>
    have hends : List.Forall₂ (fun a b ↦ fold a = fold b) text.toList piece := h
    refine ⟨?_, exists_head?_isBlank hends, ?_⟩
    · rw [segmentChars, ← List.length_eq_zero_iff, hends.length_eq, List.length_eq_zero_iff]
    · rw [segmentChars, ← List.head?_reverse, ← List.head?_reverse]
      exact exists_head?_isBlank (List.rel_reverse hends)
  | placeholder name =>
    refine ⟨iff_of_false (List.cons_ne_nil _ _) h, ?_, ?_⟩
    · rintro c ⟨⟩ hblank
      exact absurd hblank (by decide)
    · intro c hc hblank
      rw [segmentChars, ← List.cons_append, List.getLast?_concat, Option.mem_some_iff] at hc
      exact absurd hblank (by rw [← hc]; decide)

/-- A template and a text of its form are blank at the same ends, if at any. -/
theorem Template.Cuts.frames {segments : List Segment} {pieces : List (List Char)}
    {text : List Char} (h : Cuts segments pieces text) :
    Frames (segments.flatMap segmentChars) text := by
  obtain ⟨hfits, rfl⟩ := h
  induction hfits with
  | nil => exact frames_nil
  | cons hpiece _ ih => exact hpiece.frames.append ih

namespace Pattern

theorem flatMap_segmentChars (pattern : Pattern) :
    pattern.segments.flatMap segmentChars = pattern.source.toList := by
  rw [← (segments_eq_ok_iff.mp pattern.segments_eq).2, print, String.toList_ofList]

/-- A pattern has the form of its own source. -/
theorem isMatch_source (pattern : Pattern) : pattern.isMatch pattern.source = true := by
  have hwritten : ∀ segment : Segment, segment.WrittenAs (segmentChars segment) := fun segment ↦
    match segment with
    | .literal _ => rfl
    | .placeholder name => List.cons_ne_nil _ _
  have hpieces : List.Forall₂ Segment.WrittenAs pattern.segments
      (pattern.segments.map segmentChars) :=
    List.forall₂_map_right_iff.mpr (List.forall₂_same.mpr fun segment _ ↦ hwritten segment)
  have hmatch := isMatch_of_writtenAs hpieces
  rwa [← List.flatMap_def, flatMap_segmentChars, String.ofList_toList] at hmatch

/-- The source of a pattern has text and no blank at its ends. -/
def IsSayable (pattern : Pattern) : Prop :=
  pattern.source ≠ "" ∧ trim pattern.source = pattern.source

instance (pattern : Pattern) : Decidable pattern.IsSayable := inferInstanceAs (Decidable (_ ∧ _))

theorem isSayable_iff {pattern : Pattern} :
    pattern.IsSayable ↔ pattern.source ≠ "" ∧ IsTight pattern.source.toList := by
  rw [IsSayable, ← String.toList_inj, trim, String.toList_ofList, trimChars_eq_self_iff]

/-- Only a pattern that can be said has the form of a text that was trimmed. -/
theorem isSayable_of_isMatch {pattern : Pattern} {text : String}
    (hmatch : pattern.isMatch text = true) (hne : text ≠ "") (htight : IsTight text.toList) :
    pattern.IsSayable := by
  obtain ⟨pieces, hcuts⟩ := isSome_cut_iff.mp hmatch
  have hframes := hcuts.frames
  rw [flatMap_segmentChars] at hframes
  refine isSayable_iff.mpr ⟨fun hempty ↦ hne ?_, hframes.isTight htight⟩
  exact String.toList_eq_nil_iff.mp (hframes.eq_nil_iff.mp (String.toList_eq_nil_iff.mpr hempty))

end Pattern

/-! ## Requests -/

theorem Opener.isTight_strip (request : String) : IsTight (strip request).toList := by
  rw [toList_strip]
  cases afterLongest? (trimChars request.toList) with
  | none => exact isTight_trimChars _
  | some rest => exact isTight_trimChars _

namespace Routing

/-- The entry is matched by some request. -/
def IsReached (entry : Entry) (limit : Nat) : Prop :=
  ∃ request kind captures plan, route [entry] request limit = .matched entry.id kind captures plan

theorem hits_singleton_iff {entry : Entry} {text : String} :
    Hits [entry] text ↔ entry.pattern.isMatch text = true := by
  simp [Hits]

/-- A phrase that can be said is matched by its own text. -/
theorem exists_route_source {entry : Entry} (h : entry.pattern.IsSayable) (limit : Nat) :
    ∃ captures plan,
      route [entry] entry.pattern.source limit = .matched entry.id .exact captures plan := by
  obtain ⟨hne, htrim⟩ := h
  have hhits : Hits [entry] entry.pattern.source :=
    hits_singleton_iff.mpr entry.pattern.isMatch_source
  have hsome : bestExact [entry] entry.pattern.source ≠ none :=
    fun hnone ↦ bestExact_eq_none_iff.mp hnone hhits
  obtain ⟨found, hfound⟩ := Option.ne_none_iff_exists'.mp hsome
  obtain ⟨-, hmem, -⟩ := of_bestExact_eq_some hfound
  refine ⟨found.captures, found.entry.definition.plan found.captures, ?_⟩
  rw [route_eq, htrim, if_neg hne, hfound, Option.map_some, Option.getD_some, resolutionOf,
    List.mem_singleton.mp hmem]

/-- **A phrase is met exactly if it can be said.** -/
theorem isReached_iff {entry : Entry} {limit : Nat} :
    IsReached entry limit ↔ entry.pattern.IsSayable := by
  constructor
  · rintro ⟨request, kind, captures, plan, hroute⟩
    have htight : IsTight (trim request).toList := by
      rw [trim, String.toList_ofList]
      exact isTight_trimChars _
    rcases route_cases [entry] request limit with
      ⟨hwhole, -⟩ | ⟨hstripped, -⟩ | ⟨-, candidates, -, hother⟩ | ⟨-, -, -, hother⟩
    · exact Pattern.isSayable_of_isMatch (hits_singleton_iff.mp hwhole.2) hwhole.1 htight
    · obtain ⟨-, -, hne, -, hhits⟩ := hstripped
      exact Pattern.isSayable_of_isMatch (hits_singleton_iff.mp hhits) hne (Opener.isTight_strip _)
    · cases hroute.symm.trans hother
    · cases hroute.symm.trans hother
  · intro h
    obtain ⟨captures, plan, hroute⟩ := exists_route_source h limit
    exact ⟨entry.pattern.source, .exact, captures, plan, hroute⟩

/-- **Which aliases can be met.** An entry of a snapshot is matched by some request exactly if its
phrase has text and no blank at its ends, and then its phrase is such a request. How many
suggestions are wanted does not matter. -/
theorem isReached_build_iff {version : UInt64} {aliases : List Alias} {entry : Entry}
    (h : entry ∈ (Snapshot.build version aliases).entries) (limit : Nat) :
    (IsReached entry limit ↔
      entry.definition.pattern ≠ "" ∧ trim entry.definition.pattern = entry.definition.pattern) ∧
    (IsReached entry limit → ∃ captures plan,
      route [entry] entry.definition.pattern limit = .matched entry.id .exact captures plan) := by
  have hmade := (Snapshot.records_build version aliases).made entry h
  rw [isReached_iff, ← (Pattern.compile_eq_ok_iff.mp hmade.pattern).1]
  exact ⟨Iff.rfl, fun hsayable ↦ exists_route_source hsayable limit⟩

/-- A blank at the end that is none of the ASCII ones puts the first phrase out of reach, and the
second is the same without it. -/
theorem isReached_build_iff_of_no_break_space :
    let entries := (Snapshot.build 1
      [{ pattern := "\x7bwho\x7d left\u00a0" }, { pattern := "\x7bwho\x7d left" }]).entries
    (∃ entry ∈ entries, entry.definition.pattern = "\x7bwho\x7d left\u00a0" ∧
      ¬IsReached entry 3) ∧
    ∃ entry ∈ entries, ∃ captures plan,
      route [entry] "\x7bwho\x7d left" 3 = .matched entry.id .exact captures plan := by
  intro entries
  obtain ⟨first, hfirst, hblank⟩ : ∃ entry ∈ entries,
      entry.definition.pattern = "\x7bwho\x7d left\u00a0" := by decide +kernel
  obtain ⟨second, hsecond, htight⟩ : ∃ entry ∈ entries,
      entry.definition.pattern = "\x7bwho\x7d left" := by decide +kernel
  refine ⟨⟨first, hfirst, hblank, ?_⟩, second, hsecond, ?_⟩
  · rw [(isReached_build_iff hfirst 3).1, hblank]
    decide
  · obtain ⟨hreached, hroute⟩ := isReached_build_iff hsecond 3
    rw [htight] at hreached hroute
    exact hroute (hreached.mpr (by decide))

/-- An alias without any issue whose phrase begins with a blank, and one without a phrase: both get
an entry, and no request meets it. -/
theorem not_isReached_of_blank_end :
    let actions : List Action := [{ tool := "task" }]
    let snapshot := Snapshot.build 1 [
      { pattern := " my tasks", toolsRequired := NameSet.ofList ["task"], actions := actions },
      { pattern := "", toolsRequired := NameSet.ofList ["task"], actions := actions }]
    snapshot.issues = [] ∧ snapshot.entries.length = 2 ∧
    ∀ entry ∈ snapshot.entries,
      entry.definition.enabled = true ∧ ∀ limit, ¬IsReached entry limit := by
  intro actions snapshot
  have hunsayable : ∀ entry ∈ snapshot.entries,
      entry.definition.enabled = true ∧ ¬entry.pattern.IsSayable := by decide +kernel
  refine ⟨by decide +kernel, by decide +kernel, fun entry hentry ↦ ?_⟩
  obtain ⟨henabled, hpattern⟩ := hunsayable entry hentry
  exact ⟨henabled, fun limit ↦ mt isReached_iff.mp hpattern⟩

end Routing

end Phrasebook
