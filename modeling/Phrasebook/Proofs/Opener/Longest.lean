import Mathlib.Data.List.Induction
import Mathlib.Data.String.Basic
import Phrasebook.Opener
import Phrasebook.Proofs.Text.Case

/-!
# The longest opener of a text

Openers overlap: "show" is the beginning of "show me". So more than one of them may stand at the
front of a text, and the search goes through the whole list to keep the longest. What it compares is
characters of two texts, up to the case of ASCII letters, and at the end it asks whether a word goes
on. `Opens` says what it asks for, in terms of a split of the text.

## Bytes

Where an opener ends can also be counted in bytes, as the size of the opener itself. A letter and
its capital have the same size, so the count never ends inside a character of the text.
-/

namespace Phrasebook

open Text

namespace Text.CaseVariant

theorem utf8ByteSize_eq {first second : String} (h : CaseVariant first.toList second.toList) :
    first.utf8ByteSize = second.utf8ByteSize := by
  have hlower : ∀ text : List Char,
      String.utf8Len (text.map Char.toLower) = String.utf8Len text := by
    intro text
    induction text with
    | nil => rfl
    | cons c text ih =>
      have hsize : c.toLower.utf8Size = c.utf8Size := eq_toLower Char.utf8Size (by decide) c
      simp [ih, hsize]
  rw [← String.ofList_toList (s := first), ← String.ofList_toList (s := second),
    String.utf8ByteSize_ofList, String.utf8ByteSize_ofList, ← hlower first.toList, h, hlower]

/-- The first characters agree in all that is blind to case. -/
theorem map_head?_eq {β : Type} {first second : List Char} (h : CaseVariant first second)
    {f : Char → β} (hf : ∀ c : Char, f c.toLower = f c) :
    first.head?.map f = second.head?.map f := by
  have hlower : ∀ text : List Char, (text.map Char.toLower).head?.map f = text.head?.map f := by
    intro text
    simp [List.head?_map, Function.comp_def, hf]
  rw [← hlower first, h, hlower]

end Text.CaseVariant

namespace Opener

/-! ## Openers at the front of a text -/

/-- In front of `rest`, what is `spoken` is the opener: it is written like it up to the case of
ASCII letters, and no word goes on into the rest. -/
structure Opens (opener spoken rest : List Char) : Prop where
  variant : CaseVariant spoken opener
  boundary : ∀ c ∈ rest.head?, isAlphanumeric c = false

variable {opener spoken rest text : List Char}

theorem after?_eq_some_iff :
    after? opener text = some rest ↔
      ∃ spoken, text = spoken ++ rest ∧ CaseVariant spoken opener := by
  induction opener generalizing text with
  | nil => simp [after?, CaseVariant]
  | cons a opener ih =>
    cases text with
    | nil => simp [after?, CaseVariant]
    | cons b text =>
      by_cases hletter : a.toLower = b.toLower
      · rw [after?, if_pos hletter, ih]
        constructor
        · rintro ⟨spoken, rfl, hspoken⟩
          exact ⟨b :: spoken, rfl, by simpa [CaseVariant, hletter] using hspoken⟩
        · rintro ⟨_ | ⟨c, spoken⟩, htext, hspoken⟩
          · simp [CaseVariant] at hspoken
          · rw [List.cons_append, List.cons.injEq] at htext
            exact ⟨spoken, htext.2, (List.cons.inj hspoken).2⟩
      · rw [after?, if_neg hletter]
        refine iff_of_false (Option.some_ne_none rest).symm ?_
        rintro ⟨_ | ⟨c, spoken⟩, htext, hspoken⟩
        · simp [CaseVariant] at hspoken
        · rw [List.cons_append, List.cons.injEq] at htext
          exact hletter (htext.1 ▸ (List.cons.inj hspoken).1.symm)

theorem endsWord_iff : endsWord rest = true ↔ ∀ c ∈ rest.head?, isAlphanumeric c = false := by
  cases rest with
  | nil => simp [endsWord]
  | cons c rest => simp [endsWord]

theorem afterWords?_eq_some_iff :
    afterWords? text opener = some rest ↔
      ∃ spoken, text = spoken ++ rest ∧ Opens opener spoken rest := by
  rw [afterWords?, Option.filter_eq_some_iff, after?_eq_some_iff, endsWord_iff]
  constructor
  · rintro ⟨⟨spoken, htext, hvariant⟩, hboundary⟩
    exact ⟨spoken, htext, hvariant, hboundary⟩
  · rintro ⟨spoken, htext, hopens⟩
    exact ⟨⟨spoken, htext, hopens.variant⟩, hopens.boundary⟩

theorem Opens.afterWords?_append (h : Opens opener spoken rest) :
    afterWords? (spoken ++ rest) opener = some rest :=
  afterWords?_eq_some_iff.mpr ⟨spoken, rfl, h⟩

/-- What is left depends on the length of the opener only. -/
theorem eq_drop_of_afterWords? (h : afterWords? text opener = some rest) :
    rest = text.drop opener.length := by
  obtain ⟨spoken, rfl, hopens⟩ := afterWords?_eq_some_iff.mp h
  rw [← hopens.variant.length_eq, List.drop_left]

/-! ## The search -/

/-- One step of the search: an opener that stands at the front of the text is kept, with its length
and what follows it, unless a longer one was found before. -/
def keepLonger (text : List Char) (best : Option (Nat × List Char)) (opener : String) :
    Option (Nat × List Char) :=
  match afterWords? text opener.toList with
  | none => best
  | some rest =>
    match best with
    | some (size, _) => if size ≤ opener.length then some (opener.length, rest) else best
    | none => some (opener.length, rest)

theorem afterLongest?_eq_foldl (text : List Char) :
    afterLongest? text = (openers.foldl (keepLonger text) none).map (·.2) := rfl

/-- What was found among some openers: none of them stands at the front of the text, or one does,
and no longer one. -/
def IsLongest (text : List Char) (choices : List String) : Option (Nat × List Char) → Prop
  | none => ∀ opener ∈ choices, afterWords? text opener.toList = none
  | some (size, rest) =>
    (∃ opener ∈ choices, opener.length = size ∧ afterWords? text opener.toList = some rest) ∧
      ∀ other ∈ choices, afterWords? text other.toList ≠ none → other.length ≤ size

theorem IsLongest.keepLonger {choices : List String} {best : Option (Nat × List Char)}
    (h : IsLongest text choices best) (opener : String) :
    IsLongest text (choices ++ [opener]) (keepLonger text best opener) := by
  -- a longest one among the earlier openers, if it is kept, is compared with the new one only
  rcases hafter : afterWords? text opener.toList with _ | rest
  · rcases best with _ | ⟨size, found⟩
    · simpa [IsLongest, Opener.keepLonger, hafter, or_imp, forall_and] using h
    · simpa [IsLongest, Opener.keepLonger, hafter, or_imp, forall_and, or_and_right, exists_or]
        using h
  · rcases best with _ | ⟨size, found⟩
    · have hnone : ∀ other ∈ choices, afterWords? text other.toList = none := h
      simpa [IsLongest, Opener.keepLonger, hafter, or_imp, forall_and] using
        fun other hother hopens ↦ absurd (hnone other hother) hopens
    · obtain ⟨⟨longest, hmem, hlongest⟩, hbest⟩ := h
      by_cases hlonger : size ≤ opener.length
      · simp only [Opener.keepLonger, hafter, hlonger, if_true]
        refine ⟨⟨opener, by simp, rfl, hafter⟩, fun other hother hopens ↦ ?_⟩
        rcases List.mem_append.mp hother with hold | hnew
        · exact Nat.le_trans (hbest other hold hopens) hlonger
        · exact Nat.le_of_eq (congrArg String.length (List.mem_singleton.mp hnew))
      · simp only [Opener.keepLonger, hafter, hlonger, if_false]
        refine ⟨⟨longest, List.mem_append_left _ hmem, hlongest⟩, fun other hother hopens ↦ ?_⟩
        rcases List.mem_append.mp hother with hold | hnew
        · exact hbest other hold hopens
        · rw [List.mem_singleton.mp hnew]
          exact Nat.le_of_not_le hlonger

theorem isLongest_foldl (text : List Char) (choices : List String) :
    IsLongest text choices (choices.foldl (keepLonger text) none) := by
  induction choices using List.reverseRecOn with
  | nil => exact fun _ h ↦ absurd h List.not_mem_nil
  | append_singleton choices opener ih =>
    rw [List.foldl_append, List.foldl_cons, List.foldl_nil]
    exact ih.keepLonger opener

/-- **The search finds what follows the longest opener.** -/
theorem afterLongest?_eq_some_iff :
    afterLongest? text = some rest ↔
      ∃ opener ∈ openers, afterWords? text opener.toList = some rest ∧
        ∀ other ∈ openers, afterWords? text other.toList ≠ none →
          other.length ≤ opener.length := by
  have hlongest := isLongest_foldl text openers
  rw [afterLongest?_eq_foldl, Option.map_eq_some_iff]
  constructor
  · rintro ⟨⟨size, found⟩, hfound, rfl⟩
    rw [hfound] at hlongest
    obtain ⟨⟨opener, hmem, rfl, hopener⟩, hbest⟩ := hlongest
    exact ⟨opener, hmem, hopener, hbest⟩
  · rintro ⟨opener, hmem, hopener, hbest⟩
    have hopens : afterWords? text opener.toList ≠ none := by simp [hopener]
    rcases hfound : openers.foldl (keepLonger text) none with _ | ⟨size, found⟩
    · rw [hfound] at hlongest
      exact absurd (hlongest opener hmem) hopens
    · rw [hfound] at hlongest
      obtain ⟨⟨other, hother, rfl, hfollows⟩, hsize⟩ := hlongest
      -- two longest openers have one length, and so the same is left
      have hlength : other.length = opener.length :=
        Nat.le_antisymm (hbest other hother (by simp [hfollows])) (hsize opener hmem hopens)
      refine ⟨_, rfl, ?_⟩
      rw [eq_drop_of_afterWords? hopener, eq_drop_of_afterWords? hfollows, String.length_toList,
        String.length_toList, hlength]

end Opener

end Phrasebook
