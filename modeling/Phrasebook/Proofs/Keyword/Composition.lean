import Phrasebook.Proofs.Keyword.StopWords
import Phrasebook.Proofs.Pattern.Restoring
import Phrasebook.Proofs.Text.Barrier

/-!
# The keywords of a text and of its parts

Text in front of a blank and text behind it have their keywords apart: words end at a blank, and
lowercasing does not look past it (`splitsAt_tokenize`). So the keywords of a text are known from
what stands between its blanks.

The literal text of a pattern is put together with blanks, and the blanks in it are made single. By
the same law neither makes a difference to its keywords: they are those of the literals of the
template, one after another (`tokenize_literalOf`). No name of a placeholder is among them, so a
template with other names has the same ones.
-/

namespace Phrasebook

open Text

/-! ## Texts -/

namespace Keyword

theorem splitsAt_lowerWords : SplitsAt isBlank fun text ↦ lowerWords (String.ofList text) where
  nil := rfl
  append c hc before after := by
    have hend : (!isAlphanumeric c) = true := by rw [isAlphanumeric_of_isBlank hc, Bool.not_false]
    simp only [lowerWords, String.toList_ofList]
    rw [(isBarrier_of_isBlank hc).lowercase_append, piecesBy_append hend, List.map_append]

/-- **Both sides of a blank have their keywords apart.** -/
theorem splitsAt_tokenize : SplitsAt isBlank fun text ↦ tokenize (String.ofList text) where
  nil := rfl
  append c hc before after := by
    have hwords := splitsAt_lowerWords.append c hc before after
    beta_reduce at hwords ⊢
    rw [tokenize, hwords, List.filter_append, List.map_append, tokenize, tokenize]

theorem tokenize_append {blanks : String} (hne : blanks ≠ "")
    (hblanks : ∀ c ∈ blanks.toList, isBlank c = true) (before after : String) :
    tokenize (before ++ blanks ++ after) = tokenize before ++ tokenize after := by
  have hrun : blanks.toList ≠ [] := mt String.toList_eq_nil_iff.mp hne
  have happend := splitsAt_tokenize.append_run hrun hblanks before.toList after.toList
  beta_reduce at happend
  rwa [← String.toList_append, ← String.toList_append, String.ofList_toList, String.ofList_toList,
    String.ofList_toList] at happend

/-- A word alone is one keyword, if it says anything. -/
theorem tokenize_of_isWord {word : String} (h : IsWord word) :
    tokenize word = if isStopWord word then [] else [stem word] := by
  have hwords : lowerWords word = [word] := by
    have hone := lowerWords_intercalate (List.forall_mem_singleton.mpr h)
    rwa [String.intercalate_singleton] at hone
  rw [tokenize, hwords, List.filter_singleton]
  cases isStopWord word <;> rfl

theorem mem_keywordSet {text keyword : String} :
    keyword ∈ keywordSet text ↔ keyword ∈ tokenize text := NameSet.mem_ofList

end Keyword

/-! ## Literal text -/

namespace Pattern

theorem mem_literalTexts {segments : List Segment} {text : String} :
    text ∈ literalTexts segments ↔ .literal text ∈ segments := by
  rw [literalTexts, List.mem_filterMap]
  constructor
  · rintro ⟨_ | _, hmem, hsome⟩
    · rwa [← Option.some_inj.mp hsome]
    · cases hsome
  · exact fun hmem ↦ ⟨.literal text, hmem, rfl⟩

theorem literalTexts_eq {segments others : List Segment}
    (h : List.Forall₂ Segment.Alike segments others) :
    literalTexts segments = literalTexts others := by
  induction h with
  | nil => rfl
  | cons hsegment hrest ih =>
    cases hsegment with
    | literal text => exact congrArg (text :: ·) ih
    | placeholder name other => exact ih

theorem literalOf_eq {segments others : List Segment}
    (h : List.Forall₂ Segment.Alike segments others) : literalOf segments = literalOf others := by
  rw [literalOf, literalOf, literalTexts_eq h]

/-- A template with other names is a pattern with the same literal text. -/
theorem exists_compile_literal_eq {template other : String} {pattern : Pattern}
    (h : compile template = .ok pattern) {segments : List Segment}
    (hother : Template.segments other = .ok segments)
    (halike : List.Forall₂ Segment.Alike pattern.segments segments) :
    ∃ renamed, compile other = .ok renamed ∧ renamed.literal = pattern.literal := by
  obtain ⟨renamed, hrenamed, -⟩ := exists_compile_eq_ok h hother halike
  obtain rfl := (compile_eq_ok_iff.mp hrenamed).1
  obtain rfl := Except.ok.inj (renamed.segments_eq.symm.trans hother)
  exact ⟨renamed, hrenamed, (literalOf_eq halike).symm⟩

end Pattern

/-! ## Patterns -/

namespace Keyword

open Pattern

/-- **The keywords of literal text** are those of the literals it is made of. -/
theorem tokenize_literalOf (segments : List Segment) :
    tokenize (literalOf segments) = (literalTexts segments).flatMap tokenize := by
  have hcollapse := splitsAt_tokenize.collapseBlanks
    ([' '].intercalate ((literalTexts segments).map String.toList))
  beta_reduce at hcollapse
  rw [splitsAt_tokenize.intercalate (by decide), List.flatMap_map] at hcollapse
  simp only [String.ofList_toList] at hcollapse
  exact hcollapse

theorem mem_keywordSet_literalOf {segments : List Segment} {keyword : String} :
    keyword ∈ keywordSet (literalOf segments) ↔
      ∃ text, .literal text ∈ segments ∧ keyword ∈ keywordSet text := by
  rw [mem_keywordSet, tokenize_literalOf, List.mem_flatMap]
  simp only [mem_literalTexts, mem_keywordSet]

/-- **The keywords of a text are those of its parts.** A word of small letters and digits is one
keyword or none. Texts with blanks between them have the keywords of the one and then those of the
other. So the keywords of a pattern are those of its literals, and a template in which only names of
placeholders are changed has the same literal text and the same keywords. -/
theorem keywords_of_parts :
    (∀ word, IsWord word → tokenize word = if isStopWord word then [] else [stem word]) ∧
    (∀ before blanks after : String, blanks ≠ "" → (∀ c ∈ blanks.toList, isBlank c = true) →
      tokenize (before ++ blanks ++ after) = tokenize before ++ tokenize after) ∧
    ∀ template pattern, compile template = .ok pattern →
      Template.segments template = .ok pattern.segments ∧
      (∀ keyword, keyword ∈ keywordSet pattern.literal ↔
        ∃ text, .literal text ∈ pattern.segments ∧ keyword ∈ keywordSet text) ∧
      ∀ other segments, Template.segments other = .ok segments →
        List.Forall₂ Segment.Alike pattern.segments segments →
          ∃ renamed, compile other = .ok renamed ∧ renamed.literal = pattern.literal ∧
            keywordSet renamed.literal = keywordSet pattern.literal := by
  refine ⟨fun word ↦ tokenize_of_isWord, fun before blanks after hne hblanks ↦
    tokenize_append hne hblanks before after, fun template pattern h ↦ ⟨?_, fun keyword ↦
    mem_keywordSet_literalOf, fun other segments hother halike ↦ ?_⟩⟩
  · rw [← (compile_eq_ok_iff.mp h).1, pattern.segments_eq]
  · obtain ⟨renamed, hrenamed, hliteral⟩ := exists_compile_literal_eq h hother halike
    exact ⟨renamed, hrenamed, hliteral, by rw [hliteral]⟩

/-- Each part ends in a capital sigma. Between the parts are blanks of two kinds in the text, and a
placeholder without any in the template. -/
theorem keywords_of_parts_of_sigma :
    (IsWord "tasks" ∧ tokenize "tasks" = ["task"]) ∧
    ("\u00a0\n" ≠ "" ∧ (∀ c ∈ "\u00a0\n".toList, isBlank c = true) ∧
      tokenize ("ΟΔΟΣ" ++ "\u00a0\n" ++ "ΣΑΣ") = ["οδος", "σας"]) ∧
    ∃ pattern renamed, compile "ΟΔΟΣ\x7bx\x7dΣΑΣ tasks" = .ok pattern ∧
      compile "ΟΔΟΣ\x7bname\x7dΣΑΣ tasks" = .ok renamed ∧
      List.Forall₂ Segment.Alike pattern.segments renamed.segments ∧
      renamed.literal = pattern.literal ∧ "οδος" ∈ keywordSet renamed.literal := by
  let pattern : Pattern := ⟨"ΟΔΟΣ\x7bx\x7dΣΑΣ tasks",
    [.literal "ΟΔΟΣ", .placeholder "x", .literal "ΣΑΣ tasks"], by decide⟩
  have hcompile : compile "ΟΔΟΣ\x7bx\x7dΣΑΣ tasks" = .ok pattern :=
    compile_eq_ok_iff.mpr ⟨rfl, by decide⟩
  have hother : Template.segments "ΟΔΟΣ\x7bname\x7dΣΑΣ tasks" =
      .ok [.literal "ΟΔΟΣ", .placeholder "name", .literal "ΣΑΣ tasks"] := by decide
  have halike : List.Forall₂ Segment.Alike pattern.segments
      [.literal "ΟΔΟΣ", .placeholder "name", .literal "ΣΑΣ tasks"] :=
    .cons (.literal _) (.cons (.placeholder _ _) (.cons (.literal _) .nil))
  have hmem : "tasks" ∈ lowerWords "tasks" := by decide +kernel
  have hword : IsWord "tasks" := isWord_of_mem_lowerWords hmem
  have hblanks : ∀ c ∈ "\u00a0\n".toList, isBlank c = true := List.all_eq_true.mp (by decide)
  obtain ⟨halone, happend, hpatterns⟩ := keywords_of_parts
  obtain ⟨-, hkeywords, hrenamed⟩ := hpatterns _ pattern hcompile
  obtain ⟨renamed, hfound, hliteral, hsame⟩ := hrenamed _ _ hother halike
  obtain ⟨hread, -⟩ := hpatterns _ renamed hfound
  refine ⟨⟨hword, halone _ hword⟩, ⟨by decide, hblanks, ?_⟩, pattern, renamed, hcompile, hfound, ?_,
    hliteral, ?_⟩
  · rw [happend _ _ _ (by decide) hblanks]
    decide +kernel
  · rwa [← Except.ok.inj (hother.symm.trans hread)]
  · rw [hsame, hkeywords]
    exact ⟨"ΟΔΟΣ", List.mem_cons_self, by decide +kernel⟩

end Keyword

end Phrasebook
