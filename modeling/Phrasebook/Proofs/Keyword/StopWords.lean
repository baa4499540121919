import Phrasebook.Proofs.Keyword.Stem
import Phrasebook.Proofs.Text.Pieces
import Phrasebook.Proofs.Text.Small

/-!
# Stop words among keywords

Stop words are dropped before endings are taken off, not after. So a word that is no stop word can
become one: `gets` is kept, and then it is `get`. The words of which this is true are `recurring`,
and there are no others (`isStopWord_stem_iff`). A text without them has no stop word among its
keywords, and any text with one of them has.

It shows when keywords are taken for a text themselves. They are its words, since they have letters
and digits only and are in lower case (`lowerWords_intercalate`), and the ones that are dropped from
it are the stop words among them.
-/

namespace Phrasebook.Keyword

open Phrasebook.Text

/-! ## Words that become stop words -/

/-- The words that are no stop words and have one for their stem. -/
def recurring : List String :=
  ["abouts", "alls", "ands", "ares", "cans", "coulds", "fors", "froms", "gets", "gives", "haves",
    "hows", "ours", "pleases", "shows", "tells", "thats", "theirs", "thems", "thes", "theses",
    "thoses", "weres", "whiches", "whichs", "wills", "withs", "woulds", "yours"]

theorem isStopWord_of_mem_recurring : ∀ word ∈ recurring,
    isStopWord word = false ∧ isStopWord (stem word) = true := by decide

/-- Nothing stands for the `y` of a stop word: those that have a `y` at their end are too short. -/
theorem length_le_of_mem_stopWords : ∀ word ∈ stopWords,
    ['y'] <:+ word.toList → word.length ≤ 2 := by decide

theorem append_es_mem_recurring : ∀ word ∈ stopWords,
    3 ≤ word.length → EndsSibilant word.toList → word ++ "es" ∈ recurring := by decide

theorem append_s_mem_recurring : ∀ word ∈ stopWords,
    3 ≤ word.length → ¬['s'] <:+ word.toList → ¬['u'] <:+ word.toList →
      word ++ "s" ∈ recurring ∨ isStopWord (word ++ "s") = true := by decide

theorem toList_stem (word : String) : (stem word).toList = stemChars word.toList :=
  String.toList_ofList

theorem stem_eq_self {word : String} (h : ¬['s'] <:+ word.toList) : stem word = word := by
  rw [stem, stemChars_eq_self h, String.ofList_toList]

/-- **The words that become stop words**, of those that are none. -/
theorem isStopWord_stem_iff {word : String} (h : isStopWord word = false) :
    isStopWord (stem word) = true ↔ word ∈ recurring := by
  refine ⟨fun hstop ↦ ?_, fun hmem ↦ (isStopWord_of_mem_recurring word hmem).2⟩
  have hmem : stem word ∈ stopWords := List.contains_iff_mem.mp hstop
  have hne : stem word ≠ word := fun heq ↦ by
    rw [heq, h] at hstop
    exact Bool.false_ne_true hstop
  obtain ⟨base, hbase⟩ : ['s'] <:+ word.toList := not_not.mp fun hs ↦ hne (stem_eq_self hs)
  have hstem : (stem word).toList = stemChars (base ++ ['s']) := by rw [toList_stem, hbase]
  have hlength : (stem word).length = (stemChars (base ++ ['s'])).length := by
    rw [← hstem, String.length_toList]
  rw [stemChars_append_s] at hstem hlength
  split_ifs at hstem hlength with hie hsibilant hplain
  · have hshort := length_le_of_mem_stopWords _ hmem ⟨_, hstem.symm⟩
    rw [hlength, List.length_append, List.length_singleton, List.rdrop, List.length_take] at hshort
    omega
  · obtain ⟨⟨front, rfl⟩, hfront⟩ := endsSibilantE_iff.mp hsibilant.2
    rw [rdrop_concat] at hstem hlength hfront
    have hword : word = stem word ++ "es" := by
      rw [← String.toList_inj, String.toList_append, hstem, ← hbase, List.append_assoc]
      rfl
    rw [hword]
    refine append_es_mem_recurring _ hmem ?_ (hstem ▸ hfront)
    rw [hlength]
    simpa using hsibilant.1
  · have hword : word = stem word ++ "s" := by
      rw [← String.toList_inj, String.toList_append, hstem, ← hbase]
      rfl
    have hcases := append_s_mem_recurring _ hmem (hlength ▸ hplain.1) (hstem ▸ hplain.2.1)
      (hstem ▸ hplain.2.2)
    rw [← hword, h] at hcases
    exact hcases.resolve_right Bool.false_ne_true
  · exact absurd (String.toList_inj.mp (hstem.trans hbase)) hne

/-! ## Keywords as a text -/

/-- A word of a text in lower case. -/
def IsWord (word : String) : Prop :=
  IsPiece (fun c ↦ !isAlphanumeric c) word.toList ∧ ∀ c ∈ word.toList, IsSmall c

theorem isWord_of_mem_lowerWords {text word : String} (h : word ∈ lowerWords text) :
    IsWord word := by
  obtain ⟨piece, hpiece, rfl⟩ := List.mem_map.mp h
  obtain ⟨hispiece, hmem⟩ := of_mem_piecesBy hpiece
  rw [IsWord, String.toList_ofList]
  exact ⟨hispiece, fun c hc ↦ isSmall_of_mem_lowercase c (hmem c hc)⟩

/-- Words that are joined by blanks are found again. -/
theorem lowerWords_intercalate {words : List String} (h : ∀ word ∈ words, IsWord word) :
    lowerWords (String.intercalate " " words) = words := by
  have hpieces : ∀ piece ∈ words.map String.toList, IsPiece (fun c ↦ !isAlphanumeric c) piece :=
    List.forall_mem_map.mpr fun word hword ↦ (h word hword).1
  have hsmall : ∀ c ∈ [' '].intercalate (words.map String.toList), IsSmall c :=
    forall_mem_intercalate (by decide) (List.forall_mem_map.mpr fun word hword ↦ (h word hword).2)
  have hlist : (String.intercalate " " words).toList =
      [' '].intercalate (words.map String.toList) := String.toList_intercalate
  rw [lowerWords, hlist, lowercase_eq_self hsmall, piecesBy_intercalate (by decide) hpieces,
    List.map_map]
  exact List.map_id'' (fun word ↦ String.ofList_toList) words

theorem IsWord.stem {word : String} (h : IsWord word) : IsWord (stem word) := by
  obtain ⟨⟨hne, hletters⟩, hsmall⟩ := h
  obtain ⟨front, hfront, htaken, hstem⟩ := exists_front_stemChars hne
  rw [IsWord, IsPiece, toList_stem]
  rcases hstem with hstem | hstem
  · rw [hstem]
    exact ⟨⟨hfront, fun c hc ↦ hletters c (htaken.subset hc)⟩,
      fun c hc ↦ hsmall c (htaken.subset hc)⟩
  · rw [hstem, List.forall_mem_append, List.forall_mem_append, List.forall_mem_singleton,
      List.forall_mem_singleton]
    exact ⟨⟨List.append_ne_nil_of_left_ne_nil hfront _,
      fun c hc ↦ hletters c (htaken.subset hc), by decide⟩,
      fun c hc ↦ hsmall c (htaken.subset hc), by decide⟩

theorem mem_tokenize_iff {text token : String} :
    token ∈ tokenize text ↔
      ∃ word ∈ lowerWords text, isStopWord word = false ∧ stem word = token := by
  simp only [tokenize, List.mem_map, List.mem_filter, Bool.not_eq_true', and_assoc]

theorem isWord_of_mem_tokenize {text token : String} (h : token ∈ tokenize text) :
    IsWord token := by
  obtain ⟨word, hword, -, rfl⟩ := mem_tokenize_iff.mp h
  exact (isWord_of_mem_lowerWords hword).stem

/-- The keywords of the text that keywords make: the stop words among them are dropped. -/
theorem tokenize_intercalate_tokenize (text : String) :
    tokenize (String.intercalate " " (tokenize text)) =
      ((tokenize text).filter fun token ↦ !isStopWord token).map stem := by
  rw [tokenize, lowerWords_intercalate fun token ↦ isWord_of_mem_tokenize]

/-- A text without stop words among its keywords. -/
theorem forall_not_isStopWord_iff (text : String) :
    (∀ token ∈ tokenize text, isStopWord token = false) ↔
      ∀ word ∈ lowerWords text, word ∉ recurring := by
  constructor
  · intro h word hword hmem
    obtain ⟨hnot, hstem⟩ := isStopWord_of_mem_recurring word hmem
    rw [h _ (mem_tokenize_iff.mpr ⟨word, hword, hnot, rfl⟩)] at hstem
    exact Bool.false_ne_true hstem
  · intro h token htoken
    obtain ⟨word, hword, hnot, rfl⟩ := mem_tokenize_iff.mp htoken
    exact Bool.eq_false_iff.mpr (mt (isStopWord_stem_iff hnot).mp (h word hword))

/-- **Which texts have keywords without stop words.** No keyword is empty. None is a stop word, and
none is lost when they are taken for a text, exactly if no word of the text is one of those that
become stop words. -/
theorem tokenize_stopWordFree_iff (text : String) :
    (∀ token ∈ tokenize text, token ≠ "") ∧
    ((∀ token ∈ tokenize text, isStopWord token = false) ↔
      ∀ word ∈ lowerWords text, word ∉ recurring) ∧
    ((tokenize (String.intercalate " " (tokenize text))).length = (tokenize text).length ↔
      ∀ word ∈ lowerWords text, word ∉ recurring) := by
  refine ⟨fun token htoken hempty ↦ ?_, forall_not_isStopWord_iff text, ?_⟩
  · obtain ⟨⟨hne, -⟩, -⟩ := isWord_of_mem_tokenize htoken
    exact hne (String.toList_eq_nil_iff.mpr hempty)
  · rw [tokenize_intercalate_tokenize, List.length_map, List.length_filter_eq_length_iff,
      ← forall_not_isStopWord_iff]
    simp only [Bool.not_eq_true']

/-- Not every text has keywords without stop words. -/
theorem not_stopWordFree_of_gets :
    ¬∀ text, ∀ token ∈ tokenize text, token ≠ "" ∧ isStopWord token = false := by
  intro h
  have hget : "get" ∈ tokenize "gets" := by decide +kernel
  exact absurd (h "gets" "get" hget).2 (by decide)

end Phrasebook.Keyword
