import Phrasebook.Proofs.Pattern.Captures
import Phrasebook.Proofs.Text.Case

/-!
# Matching a text in another case

A literal takes the same text in any case, and a placeholder takes any text. So of two texts that
differ in the case of ASCII letters every cut of one is a cut of the other, at the same places. The
greedy cut is chosen by lengths alone, so it is at the same places too, and the captures are read
off it.
-/

namespace Phrasebook

open Text

/-! ## Cuts -/

theorem Segment.Fits.caseVariant {segment : Segment} {piece other : List Char}
    (h : segment.Fits piece) (hvariant : CaseVariant piece other) : segment.Fits other := by
  cases segment with
  | literal text => exact (forall₂_image_iff fold).mpr (((forall₂_image_iff fold).mp h).trans
      hvariant.map_fold_eq)
  | placeholder name => exact mt hvariant.eq_nil_iff.mpr h

namespace Template

variable {segments : List Segment} {pieces : List (List Char)} {first second : List Char}

theorem Cuts.caseVariant (h : Cuts segments pieces first) (hvariant : CaseVariant first second) :
    ∃ others, Cuts segments others second ∧
      List.Forall₂ (SamePlace first second) pieces others := by
  induction segments generalizing pieces first second with
  | nil =>
    obtain ⟨rfl, hfirst⟩ := cuts_nil_iff.mp h
    exact ⟨[], cuts_nil_iff.mpr ⟨rfl, hvariant.eq_nil_iff.mp hfirst⟩, List.Forall₂.nil⟩
  | cons segment segments ih =>
    obtain ⟨k, hk, rest, rfl, hpiece, hrest⟩ := cuts_cons_iff.mp h
    obtain ⟨others, hothers, hplaces⟩ := ih hrest (hvariant.drop k)
    refine ⟨second.take k :: others, ?_, ?_⟩
    · exact cuts_cons_iff.mpr ⟨k, hvariant.length_eq ▸ hk, others, rfl,
        hpiece.caseVariant (hvariant.take k), hothers⟩
    · refine List.Forall₂.cons (samePlace_take first second k) (hplaces.imp fun _ _ hplace ↦ ?_)
      exact (hvariant.samePlace_drop k).trans hplace

theorem map_length_eq {others : List (List Char)} (hvariant : CaseVariant first second)
    (h : List.Forall₂ (SamePlace first second) pieces others) :
    pieces.map List.length = others.map List.length :=
  (forall₂_image_iff List.length).mp (h.imp fun _ _ hplace ↦
    (hvariant.of_samePlace hplace).length_eq)

/-- The greedy cuts of two such texts are at the same places. -/
theorem IsGreedy.caseVariant (h : IsGreedy segments pieces first)
    (hvariant : CaseVariant first second) :
    ∃ others, IsGreedy segments others second ∧
      List.Forall₂ (SamePlace first second) pieces others := by
  obtain ⟨others, hothers, hplaces⟩ := h.cuts.caseVariant hvariant
  refine ⟨others, ⟨hothers, fun other hother ↦ ?_⟩, hplaces⟩
  -- a cut of the second text is one of the first as well, which is not greater
  obtain ⟨back, hback, hbackPlaces⟩ := hother.caseVariant hvariant.symm
  rw [map_length_eq hvariant.symm hbackPlaces, ← map_length_eq hvariant hplaces]
  exact h.greatest back hback

end Template

/-! ## Captures -/

section

variable {α β γ δ : Type} {R : α → β → Prop} {a : Option α} {b : Option β}

theorem optionRel_cases (h : Option.Rel R a b) :
    (a = none ∧ b = none) ∨ ∃ x y, a = some x ∧ b = some y ∧ R x y := by
  cases h with
  | none => exact Or.inl ⟨rfl, rfl⟩
  | some hxy => exact Or.inr ⟨_, _, rfl, rfl, hxy⟩

/-- Related values stay related when both are mapped. -/
theorem optionRel_map {S : γ → δ → Prop} {f : α → γ} {g : β → δ} (h : Option.Rel R a b)
    (himage : ∀ x y, R x y → S (f x) (g y)) : Option.Rel S (a.map f) (b.map g) := by
  cases h with
  | none => exact Option.Rel.none
  | some hxy => exact Option.Rel.some (himage _ _ hxy)

theorem optionRel_imp {S : α → β → Prop} (h : Option.Rel R a b)
    (himp : ∀ x y, R x y → S x y) : Option.Rel S a b := by
  cases h with
  | none => exact Option.Rel.none
  | some hxy => exact Option.Rel.some (himp _ _ hxy)

end

namespace Pattern

open Template

/-- The captures have the same names, and what two of them hold under a name are the parts of the
two texts at one place, which differ at most in the case of ASCII letters. -/
def SameParts (first second : String) (captures others : Captures) : Prop :=
  ∀ name, Option.Rel (fun value other ↦ CaseVariant value.toList other.toList ∧
    SamePlace first.toList second.toList value.toList other.toList)
      (captures.get? name) (others.get? name)

theorem firstPiece_rel {R : List Char → List Char → Prop} {segments : List Segment}
    {pieces others : List (List Char)} (h : List.Forall₂ R pieces others) (name : String) :
    Option.Rel R (firstPiece segments pieces name) (firstPiece segments others name) := by
  induction h generalizing segments with
  | nil => cases segments <;> exact Option.Rel.none
  | @cons piece other pieces others hpiece hrest ih =>
    cases segments with
    | nil => exact Option.Rel.none
    | cons segment segments =>
      cases segment with
      | literal text => exact ih
      | placeholder found =>
        by_cases hname : name = found
        · subst hname
          rw [firstPiece_cons_self, firstPiece_cons_self]
          exact Option.Rel.some hpiece
        · rw [firstPiece_cons_of_ne hname, firstPiece_cons_of_ne hname]
          exact ih

variable {pattern : Pattern} {first second : String}

theorem captures?_caseVariant {captures : Captures} (h : pattern.captures? first = some captures)
    (hvariant : CaseVariant first.toList second.toList) :
    ∃ others, pattern.captures? second = some others ∧ SameParts first second captures others := by
  obtain ⟨pieces, hgreedy, rfl⟩ := captures?_eq_some_iff.mp h
  obtain ⟨others, hothers, hplaces⟩ := hgreedy.caseVariant hvariant
  refine ⟨_, captures?_eq_some_iff.mpr ⟨others, hothers, rfl⟩, fun name ↦ ?_⟩
  rw [get?_nameCaptures_empty, get?_nameCaptures_empty]
  refine optionRel_map (firstPiece_rel hplaces name) fun piece other hplace ↦ ?_
  rw [String.toList_ofList, String.toList_ofList]
  exact ⟨hvariant.of_samePlace hplace, hplace⟩

/-- **A pattern takes the same parts of a text in any case.** -/
theorem captures?_rel (hvariant : CaseVariant first.toList second.toList) :
    Option.Rel (SameParts first second) (pattern.captures? first) (pattern.captures? second) := by
  cases hfirst : pattern.captures? first with
  | some captures =>
    obtain ⟨others, hothers, hparts⟩ := captures?_caseVariant hfirst hvariant
    rw [hothers]
    exact Option.Rel.some hparts
  | none =>
    cases hsecond : pattern.captures? second with
    | none => exact Option.Rel.none
    | some others =>
      obtain ⟨captures, hcaptures, -⟩ := captures?_caseVariant hsecond hvariant.symm
      cases hfirst.symm.trans hcaptures

end Pattern

end Phrasebook
