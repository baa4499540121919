import Phrasebook.Proofs.Json.Texts

/-!
# Normal values

Values that are kept and not only read are normal: the fields of an object ascend, numbers are
finite, and there are no single characters. Normalizing gives a normal value and leaves a normal
one alone, so a value is normal just when it is its own normal form.
-/

namespace Phrasebook.Json

/-- The value can stand in parameters: at every depth fields ascend by name, and what is no JSON is
absent. -/
inductive IsNormal : Json → Prop where
  | null : IsNormal .null
  | bool (b : Bool) : IsNormal (.bool b)
  | int (n : Int) : IsNormal (.int n)
  | float {x : Float} (hnan : x.isNaN = false) (hinf : x.isInf = false) : IsNormal (.float x)
  | str (s : String) : IsNormal (.str s)
  | arr {items : List Json} (hitems : ∀ item ∈ items, IsNormal item) : IsNormal (.arr items)
  | obj {fields : List (String × Json)} (hascending : fields.Pairwise fun a b ↦ a.1 < b.1)
    (hfields : ∀ field ∈ fields, IsNormal field.2) : IsNormal (.obj fields)

/-! ## Items and fields as lists -/

theorem normalize_arr (items : List Json) :
    normalize (.arr items) = .arr (items.map normalize) := by
  rw [normalize]
  congr 1
  induction items with
  | nil => rfl
  | cons item items ih => rw [normalizeItems, ih, List.map_cons]

theorem normalize_obj (fields : List (String × Json)) :
    normalize (.obj fields) =
      .obj (NameMap.ofList (fields.map fun field ↦ (field.1, normalize field.2))).entries := by
  rw [normalize]
  congr 3
  induction fields with
  | nil => rfl
  | cons field fields ih => rw [normalizeFields, ih, List.map_cons]

/-! ## Normal forms -/

theorem isNormal_normalize (value : Json) : value.normalize.IsNormal := by
  induction value using inductionOn with
  | null => exact IsNormal.null
  | bool b => exact IsNormal.bool b
  | int n => exact IsNormal.int n
  | float x =>
    rw [normalize]
    split
    · exact IsNormal.null
    · rename_i hfinite
      obtain ⟨hnan, hinf⟩ := not_or.mp (mt (Bool.or_eq_true _ _).mpr hfinite)
      exact IsNormal.float (Bool.eq_false_iff.mpr hnan) (Bool.eq_false_iff.mpr hinf)
  | char c => exact IsNormal.str _
  | str s => exact IsNormal.str s
  | arr items ih =>
    rw [normalize_arr]
    exact IsNormal.arr (List.forall_mem_map.mpr ih)
  | obj fields ih =>
    rw [normalize_obj]
    refine IsNormal.obj (NameMap.ascending _) fun field hfield ↦ ?_
    obtain ⟨source, hsource, rfl⟩ := List.mem_map.mp (NameMap.mem_of_mem_ofList hfield)
    exact ih source hsource

theorem IsNormal.normalize_eq {value : Json} (h : value.IsNormal) : value.normalize = value := by
  induction h with
  | null | bool | int | str => rfl
  | float hnan hinf => rw [normalize, hnan, hinf]; rfl
  | @arr items _ ih =>
    rw [normalize_arr]
    congr 1
    exact (List.map_congr_left ih).trans (List.map_id' items)
  | @obj fields hascending _ ih =>
    have hvalue : ∀ field ∈ fields, (field.1, normalize field.2) = field :=
      fun field hfield ↦ Prod.ext rfl (ih field hfield)
    have hfields : (fields.map fun field ↦ (field.1, normalize field.2)) = fields :=
      (List.map_congr_left hvalue).trans (List.map_id' fields)
    have hkept : NameMap.ofList fields = ⟨fields, hascending⟩ :=
      NameMap.ofList_entries ⟨fields, hascending⟩
    rw [normalize_obj, hfields, hkept]

theorem isNormal_iff_normalize_eq {value : Json} : value.IsNormal ↔ value.normalize = value :=
  ⟨IsNormal.normalize_eq, fun h ↦ h ▸ isNormal_normalize value⟩

/-- Objects are what objects are normalized to. -/
theorem normalize_eq_obj_iff {value : Json} {entries : List (String × Json)} :
    value.normalize = .obj entries ↔
      ∃ fields, value = .obj fields ∧
        (NameMap.ofList (fields.map fun field ↦ (field.1, normalize field.2))).entries =
          entries := by
  constructor
  · intro h
    cases value with
    | obj fields =>
      rw [normalize_obj] at h
      exact ⟨fields, rfl, Json.obj.inj h⟩
    | float x =>
      rw [normalize] at h
      split at h <;> cases h
    | null | bool | int | char | str | arr => cases h
  · rintro ⟨fields, rfl, rfl⟩
    exact normalize_obj fields

end Phrasebook.Json
