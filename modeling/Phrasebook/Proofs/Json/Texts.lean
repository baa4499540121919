import Phrasebook.Json

/-!
# Texts at any depth

A value holds texts at any depth, in the items of its arrays and in the fields of its objects. The
functions that look for texts and those that change them follow a value down by mutual recursion.
Here they are brought to the form in which they are used: items and fields as lists, and one
induction over values that has a hypothesis for each item and each field.
-/

namespace Phrasebook.Json

/-! ## Induction over values -/

@[elab_as_elim]
theorem inductionOn {motive : Json → Prop} (value : Json) (null : motive .null)
    (bool : ∀ b, motive (.bool b)) (int : ∀ n, motive (.int n)) (float : ∀ x, motive (.float x))
    (char : ∀ c, motive (.char c)) (str : ∀ s, motive (.str s))
    (arr : ∀ items, (∀ item ∈ items, motive item) → motive (.arr items))
    (obj : ∀ fields, (∀ field ∈ fields, motive field.2) → motive (.obj fields)) :
    motive value := by
  refine @Json.rec motive (fun items ↦ ∀ item ∈ items, motive item)
    (fun fields ↦ ∀ field ∈ fields, motive field.2) (fun field ↦ motive field.2)
    null bool int float char str arr obj ?_ ?_ ?_ ?_ ?_ value
  · exact fun _ h ↦ absurd h List.not_mem_nil
  · exact fun item items hitem hitems ↦ List.forall_mem_cons.mpr ⟨hitem, hitems⟩
  · exact fun _ h ↦ absurd h List.not_mem_nil
  · exact fun field fields hfield hfields ↦ List.forall_mem_cons.mpr ⟨hfield, hfields⟩
  · exact fun name value hvalue ↦ hvalue

/-! ## Items and fields as lists -/

theorem textsWithin_arr (items : List Json) :
    textsWithin (.arr items) = items.flatMap textsWithin := by
  rw [textsWithin]
  induction items with
  | nil => rfl
  | cons item items ih => rw [textsWithinItems, ih, List.flatMap_cons]

theorem textsWithin_obj (fields : List (String × Json)) :
    textsWithin (.obj fields) = fields.flatMap fun field ↦ textsWithin field.2 := by
  rw [textsWithin]
  induction fields with
  | nil => rfl
  | cons field fields ih => rw [textsWithinFields, ih, List.flatMap_cons]

theorem mapTexts_arr (f : String → String) (items : List Json) :
    mapTexts f (.arr items) = .arr (items.map (mapTexts f)) := by
  rw [mapTexts]
  congr 1
  induction items with
  | nil => rfl
  | cons item items ih => rw [mapTextsItems, ih, List.map_cons]

theorem mapTexts_obj (f : String → String) (fields : List (String × Json)) :
    mapTexts f (.obj fields) = .obj (fields.map fun field ↦ (field.1, mapTexts f field.2)) := by
  rw [mapTexts]
  congr 1
  induction fields with
  | nil => rfl
  | cons field fields ih => rw [mapTextsFields, ih, List.map_cons]

/-! ## Texts -/

/-- The value is the text, or holds it at some depth. The names of fields are no texts. -/
inductive HasText (text : String) : Json → Prop where
  | str : HasText text (.str text)
  | item {items : List Json} {item : Json} (hmem : item ∈ items) (h : HasText text item) :
    HasText text (.arr items)
  | field {fields : List (String × Json)} {field : String × Json} (hmem : field ∈ fields)
    (h : HasText text field.2) : HasText text (.obj fields)

theorem mem_textsWithin_iff {text : String} {value : Json} :
    text ∈ textsWithin value ↔ HasText text value := by
  constructor
  · intro h
    induction value using inductionOn with
    | str s =>
      obtain rfl := List.mem_singleton.mp h
      exact HasText.str
    | arr items ih =>
      rw [textsWithin_arr, List.mem_flatMap] at h
      obtain ⟨item, hitem, htext⟩ := h
      exact HasText.item hitem (ih item hitem htext)
    | obj fields ih =>
      rw [textsWithin_obj, List.mem_flatMap] at h
      obtain ⟨field, hfield, htext⟩ := h
      exact HasText.field hfield (ih field hfield htext)
    | null | bool | int | float | char => exact absurd h List.not_mem_nil
  · intro h
    induction h with
    | str => exact List.mem_singleton.mpr rfl
    | item hmem _ ih =>
      rw [textsWithin_arr]
      exact List.mem_flatMap.mpr ⟨_, hmem, ih⟩
    | field hmem _ ih =>
      rw [textsWithin_obj]
      exact List.mem_flatMap.mpr ⟨_, hmem, ih⟩

/-- Only what a change does to the texts of a value matters. -/
theorem mapTexts_congr {f g : String → String} {value : Json}
    (h : ∀ text, HasText text value → f text = g text) : mapTexts f value = mapTexts g value := by
  induction value using inductionOn with
  | str s => rw [mapTexts, mapTexts, h s HasText.str]
  | arr items ih =>
    rw [mapTexts_arr, mapTexts_arr]
    congr 1
    exact List.map_congr_left fun item hitem ↦ ih item hitem fun text htext ↦
      h text (HasText.item hitem htext)
  | obj fields ih =>
    rw [mapTexts_obj, mapTexts_obj]
    congr 1
    refine List.map_congr_left fun field hfield ↦ ?_
    rw [ih field hfield fun text htext ↦ h text (HasText.field hfield htext)]
  | null | bool | int | float | char => rfl

/-- No text of a value is lost in a change. -/
theorem eq_of_mapTexts_eq {f g : String → String} {value : Json} {text : String}
    (htext : HasText text value) (h : mapTexts f value = mapTexts g value) : f text = g text := by
  induction htext with
  | str =>
    rw [mapTexts, mapTexts] at h
    exact Json.str.inj h
  | item hmem _ ih =>
    rw [mapTexts_arr, mapTexts_arr] at h
    exact ih (List.map_inj_left.mp (Json.arr.inj h) _ hmem)
  | field hmem _ ih =>
    rw [mapTexts_obj, mapTexts_obj] at h
    exact ih (Prod.mk.inj (List.map_inj_left.mp (Json.obj.inj h) _ hmem)).2

end Phrasebook.Json
