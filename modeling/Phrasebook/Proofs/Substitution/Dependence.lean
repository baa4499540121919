import Phrasebook.Proofs.Snapshot.Admission

/-!
# What a value depends on

The check of an alias asks which names a value refers to, and later the value is filled. Both read
the texts of the value in the one way, `parts`, but the check collects the names of the references
and filling puts something in their place. A name that the check missed would be filled with
nothing, and a name that the check made up would keep out an alias without a fault.

`DependsOn` says what a name has to do with filling, without a word about braces: what is captured
under it can make a difference. The names that the check finds are those.
-/

namespace Phrasebook.Substitution

/-! ## Dependence -/

/-- What is captured under the name makes a difference to the filled value, when all else that is
captured stays the same. -/
def DependsOn (value : Json) (name : String) : Prop :=
  ∃ first second : Captures,
    (∀ other, other ≠ name → first.get? other = second.get? other) ∧
      substituteWithin first value ≠ substituteWithin second value

theorem substituteWithin_congr {first second : Captures} {value : Json}
    (h : ∀ name ∈ namesWithin value, first.get? name = second.get? name) :
    substituteWithin first value = substituteWithin second value := by
  apply Json.mapTexts_congr
  intro text htext
  apply substitute_congr
  intro name hrefers
  rw [h name (mem_namesWithin_iff.mpr ⟨text, htext, hrefers⟩)]

theorem mem_namesWithin_of_dependsOn {value : Json} {name : String} (h : DependsOn value name) :
    name ∈ namesWithin value := by
  obtain ⟨first, second, hagree, hdiffer⟩ := h
  by_contra hmem
  apply hdiffer
  apply substituteWithin_congr
  intro other hother
  exact hagree other (ne_of_mem_of_not_mem hother hmem)

/-! ## A reference makes a difference -/

/-- The longer what is put in, the longer the text. -/
theorem length_substitute_le {first second : Captures}
    (h : ∀ name, ((first.get? name).getD "").length ≤ ((second.get? name).getD "").length)
    (text : String) : (substitute first text).length ≤ (substitute second text).length := by
  rw [substitute, substitute, String.length_ofList, String.length_ofList]
  induction parts text.toList with
  | nil => exact Nat.le_refl _
  | cons part rest ih =>
    have hpart : (part.resolve first).length ≤ (part.resolve second).length := by
      cases part with
      | char c => exact Nat.le_refl _
      | reference name => exact h name
    rw [List.flatMap_cons, List.flatMap_cons, List.length_append, List.length_append]
    exact Nat.add_le_add hpart ih

/-- A text that refers to a name tells a capture of one character from no capture. -/
theorem substitute_ne_of_refers {text name : String} (h : Refers text name) :
    substitute ∅ text ≠ substitute (NameMap.empty.insert name "x") text := by
  obtain ⟨hname, before, after, rfl⟩ := h
  have hempty : ∀ other, ((∅ : Captures).get? other).getD "" = "" := fun _ ↦ rfl
  have hlonger : ∀ other, (((∅ : Captures).get? other).getD "").length ≤
      (((NameMap.empty.insert name "x").get? other).getD "").length := by
    intro other
    rw [hempty]
    exact Nat.zero_le _
  have hbefore := length_substitute_le hlonger before
  have hafter := length_substitute_le hlonger after
  intro heq
  rw [substitute_append_written _ hname, substitute_append_written _ hname, hempty,
    NameMap.get?_insert_self, Option.getD_some] at heq
  have hlength := congrArg String.length heq
  simp only [String.length_append] at hlength
  have hone : "x".length = 1 := rfl
  have hzero : "".length = 0 := rfl
  omega

theorem dependsOn_of_mem_namesWithin {value : Json} {name : String}
    (h : name ∈ namesWithin value) : DependsOn value name := by
  obtain ⟨text, htext, hrefers⟩ := mem_namesWithin_iff.mp h
  refine ⟨∅, NameMap.empty.insert name "x", ?_, ?_⟩
  · intro other hother
    rw [NameMap.get?_insert_of_ne _ hother]
    rfl
  · intro heq
    exact substitute_ne_of_refers hrefers (Json.eq_of_mapTexts_eq htext heq)

/-- **The names found in a value are those that it depends on.** They are the identifiers that stand
in braces in one of its texts, at any depth; what is captured under one of them can make a
difference to the filled value; and nothing else that is captured can. -/
theorem mem_namesWithin_iff_dependsOn (value : Json) :
    (∀ name, name ∈ namesWithin value ↔ isIdentifier name.toList = true ∧
      ∃ text, Json.HasText text value ∧
        ∃ before after, text = before ++ written name ++ after) ∧
    (∀ name, name ∈ namesWithin value ↔ DependsOn value name) ∧
    ∀ first second : Captures,
      (∀ name ∈ namesWithin value, first.get? name = second.get? name) →
        substituteWithin first value = substituteWithin second value := by
  refine ⟨fun name ↦ ?_, fun name ↦ ?_, fun first second ↦ substituteWithin_congr⟩
  · rw [mem_namesWithin_iff]
    simp only [Refers]
    exact ⟨fun ⟨text, htext, hname, hsplit⟩ ↦ ⟨hname, text, htext, hsplit⟩,
      fun ⟨hname, text, htext, hsplit⟩ ↦ ⟨text, htext, hname, hsplit⟩⟩
  · exact ⟨dependsOn_of_mem_namesWithin, mem_namesWithin_of_dependsOn⟩

/-- Braces overlap in one text, another has braces around what is no name, and the name of the field
is in braces, too. The captures differ under that name only. -/
theorem mem_namesWithin_iff_dependsOn_of_overlapping :
    let value : Json :=
      .obj [("\x7bkey\x7d", .arr [.str "\x7b\x7ba\x7d\x7bb\x7d\x7d", .str "\x7bkey \x7bb\x7d"])]
    let first := (NameMap.empty.insert "a" "\x7bb\x7d").insert "b" "2"
    let second := first.insert "key" "3"
    (∀ name ∈ namesWithin value, first.get? name = second.get? name) ∧
    substituteWithin first value = substituteWithin second value ∧
    DependsOn value "a" ∧ DependsOn value "b" ∧ ¬DependsOn value "key" := by
  intro value first second
  obtain ⟨-, hdepends, hagree⟩ := mem_namesWithin_iff_dependsOn value
  have hnames : (namesWithin value).toList = ["a", "b"] := by decide +kernel
  have hsame : ∀ name ∈ namesWithin value, first.get? name = second.get? name := by
    intro name hname
    rw [← NameSet.mem_toList, hnames] at hname
    revert name
    decide
  refine ⟨hsame, hagree first second hsame, ?_, ?_, ?_⟩
  · rw [← hdepends, ← NameSet.mem_toList, hnames]
    decide
  · rw [← hdepends, ← NameSet.mem_toList, hnames]
    decide
  · rw [← hdepends, ← NameSet.mem_toList, hnames]
    decide

end Phrasebook.Substitution
