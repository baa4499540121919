import Phrasebook.Proofs.Json.Reading
import Phrasebook.Settings.Loading

/-!
# Layers of settings

Documents are laid over each other name by name. Where a document has distinct names, as tables have
that were read from a file, one lookup in it decides about one name: what it says of a name replaces
what was there or is laid over it, and what it does not name stays. A setting is found by two such
lookups, of its section and of its own name in it (`valueAt`), so laying documents over each other
amounts to laying over each other what they say of each setting (`valueAt_merge`).
-/

namespace Phrasebook.Settings

/-! ## Fields -/

/-- No two fields have the same name. -/
def Distinct (fields : List (String × Json)) : Prop := (fields.map (·.1)).Nodup

instance (fields : List (String × Json)) : Decidable (Distinct fields) :=
  inferInstanceAs (Decidable (fields.map (·.1)).Nodup)

/-- What is said of a name of which something is said below, above, or both. -/
def overlay : Option Json → Option Json → Option Json
  | under, none => under
  | none, some value => some value
  | some under, some value => some (merge under value)

@[simp] theorem overlay_none (under : Option Json) : overlay under none = under := by
  cases under with
  | none => rfl
  | some under => rfl

@[simp] theorem none_overlay (upper : Option Json) : overlay none upper = upper := by
  cases upper with
  | none => rfl
  | some value => rfl

/-- What holds below and above, and of what is laid over each other, holds of what is there. -/
theorem forall_mem_overlay {p : Json → Prop} {under upper : Option Json}
    (hmerge : ∀ value value', p value → p value' → p (merge value value'))
    (hunder : ∀ value ∈ under, p value) (hupper : ∀ value ∈ upper, p value) :
    ∀ value ∈ overlay under upper, p value := by
  intro value hvalue
  cases upper with
  | none =>
    rw [overlay_none] at hvalue
    exact hunder value hvalue
  | some above =>
    cases under with
    | none => exact hupper value hvalue
    | some below =>
      obtain rfl := Option.some.inj hvalue
      exact hmerge below above (hunder below rfl) (hupper above rfl)

variable {name other : String} {value : Json} {fields : List (String × Json)}

theorem lookup_putField_self (name : String) (value : Json) (fields : List (String × Json)) :
    (putField name value fields).lookup name = some value := by
  induction fields with
  | nil => exact List.lookup_cons_self
  | cons field rest ih =>
    rw [putField]
    split
    · exact List.lookup_cons_self
    · rename_i hname
      rw [List.lookup_cons, beq_eq_false_iff_ne.mpr (Ne.symm hname), ih]

theorem lookup_putField_of_ne (h : other ≠ name) (value : Json) (fields : List (String × Json)) :
    (putField name value fields).lookup other = fields.lookup other := by
  induction fields with
  | nil => rw [putField, List.lookup_cons, beq_eq_false_iff_ne.mpr h]
  | cons field rest ih =>
    rw [putField]
    split
    · rename_i hname
      rw [List.lookup_cons, List.lookup_cons, hname, beq_eq_false_iff_ne.mpr h]
    · rw [List.lookup_cons, List.lookup_cons, ih]

theorem mem_of_mem_map_putField (h : other ∈ (putField name value fields).map (·.1)) :
    other = name ∨ other ∈ fields.map (·.1) := by
  induction fields with
  | nil => exact Or.inl (List.mem_singleton.mp h)
  | cons field rest ih =>
    rw [putField] at h
    split at h
    · rename_i hname
      rw [List.map_cons, List.mem_cons] at h ⊢
      exact h.imp_right Or.inr
    · rw [List.map_cons, List.mem_cons] at h ⊢
      rcases h with h | h
      · exact Or.inr (Or.inl h)
      · exact (ih h).imp_right Or.inr

theorem Distinct.putField (h : Distinct fields) (name : String) (value : Json) :
    Distinct (putField name value fields) := by
  induction fields with
  | nil => exact List.nodup_cons.mpr ⟨List.not_mem_nil, List.nodup_nil⟩
  | cons field rest ih =>
    obtain ⟨hfield, hrest⟩ := List.nodup_cons.mp h
    rw [Settings.putField]
    split
    · rename_i hname
      exact List.nodup_cons.mpr ⟨hname ▸ hfield, hrest⟩
    · rename_i hname
      refine List.nodup_cons.mpr ⟨fun hmem ↦ ?_, ih hrest⟩
      exact (mem_of_mem_map_putField hmem).elim hname hfield

/-- One lookup above and one below decide about a name. -/
theorem lookup_mergeFields {upper : List (String × Json)} (h : Distinct upper) (name : String) :
    (mergeFields fields upper).lookup name = overlay (fields.lookup name) (upper.lookup name) := by
  induction upper generalizing fields with
  | nil => rw [mergeFields, List.lookup_nil, overlay_none]
  | cons field rest ih =>
    obtain ⟨first, value⟩ := field
    obtain ⟨hfirst, hrest⟩ := List.nodup_cons.mp h
    rw [mergeFields, ih hrest]
    by_cases hname : name = first
    · subst hname
      have hnone : rest.lookup name = none := List.lookup_eq_none_iff.mpr fun field hfield ↦
        bne_iff_ne.mpr fun heq ↦ hfirst (List.mem_map.mpr ⟨field, hfield, heq.symm⟩)
      rw [lookup_putField_self, List.lookup_cons_self, hnone]
      cases fields.lookup name <;> rfl
    · rw [lookup_putField_of_ne hname, List.lookup_cons, beq_eq_false_iff_ne.mpr hname]

theorem Distinct.mergeFields (h : Distinct fields) (upper : List (String × Json)) :
    Distinct (mergeFields fields upper) := by
  induction upper generalizing fields with
  | nil => exact h
  | cons field rest ih =>
    rw [Settings.mergeFields]
    exact ih (h.putField _ _)

/-! ## Sections -/

/-- The names of the sections. -/
def sectionNames : List String := ["store", "resolver", "logging", "output"]

/-- The fields of a section, of which there are none if the section is not there. -/
def entriesAt (document : Json) (name : String) : List (String × Json) :=
  match document with
  | .obj fields =>
    match fields.lookup name with
    | some (.obj entries) => entries
    | _ => []
  | _ => []

/-- What a document says of a setting. -/
def valueAt (document : Json) (table name : String) : Option Json :=
  (entriesAt document table).lookup name

/-- The value is a table: an object that has one field at most under each name. -/
def IsTable (value : Json) : Prop := ∃ fields, value = .obj fields ∧ Distinct fields

theorem IsTable.merge {lower upper : Json} (hlower : IsTable lower) (hupper : IsTable upper) :
    IsTable (merge lower upper) := by
  obtain ⟨fields, rfl, hfields⟩ := hlower
  obtain ⟨above, rfl, -⟩ := hupper
  exact ⟨_, rfl, hfields.mergeFields above⟩

/-- The document is a table, and each of its sections is one. -/
def IsTabular (document : Json) : Prop :=
  ∃ fields, document = .obj fields ∧ Distinct fields ∧
    ∀ table ∈ sectionNames, ∀ value ∈ fields.lookup table, IsTable value

theorem isTabular_of_forall (h : Distinct fields) (hfields : ∀ field ∈ fields, IsTable field.2) :
    IsTabular (.obj fields) := by
  refine ⟨fields, rfl, h, fun table _ value hvalue ↦ ?_⟩
  obtain ⟨before, after, rfl, -⟩ := List.lookup_eq_some_iff.mp hvalue
  exact hfields (table, value) (List.mem_append_right before List.mem_cons_self)

theorem isTabular_nil : IsTabular (.obj []) :=
  isTabular_of_forall List.nodup_nil (List.forall_mem_nil _)

theorem IsTabular.merge {lower upper : Json} (hlower : IsTabular lower)
    (hupper : IsTabular upper) : IsTabular (merge lower upper) := by
  obtain ⟨fields, rfl, hfields, hsections⟩ := hlower
  obtain ⟨above, rfl, hnodup, hsections'⟩ := hupper
  refine ⟨_, rfl, hfields.mergeFields above, fun table htable ↦ ?_⟩
  rw [lookup_mergeFields hnodup]
  exact forall_mem_overlay (fun _ _ ↦ IsTable.merge) (hsections table htable)
    (hsections' table htable)

theorem entriesAt_congr {above : List (String × Json)} {table : String}
    (h : fields.lookup table = above.lookup table) :
    entriesAt (.obj fields) table = entriesAt (.obj above) table := by
  simp only [entriesAt, h]

theorem entriesAt_of_lookup {entries : List (String × Json)} {table : String}
    (h : fields.lookup table = some (.obj entries)) : entriesAt (.obj fields) table = entries := by
  simp only [entriesAt, h]

/-- A section that is not there has no fields. -/
theorem entriesAt_cases {table : String} (h : ∀ value ∈ fields.lookup table, IsTable value) :
    fields.lookup table = none ∧ entriesAt (.obj fields) table = [] ∨
      fields.lookup table = some (.obj (entriesAt (.obj fields) table)) ∧
        Distinct (entriesAt (.obj fields) table) := by
  cases htable : fields.lookup table with
  | none => exact Or.inl ⟨rfl, by simp only [entriesAt, htable]⟩
  | some value =>
    obtain ⟨entries, rfl, hdistinct⟩ := h value htable
    rw [entriesAt_of_lookup htable]
    exact Or.inr ⟨rfl, hdistinct⟩

theorem IsTabular.distinct_entriesAt {document : Json} (h : IsTabular document) {table : String}
    (htable : table ∈ sectionNames) : Distinct (entriesAt document table) := by
  obtain ⟨fields, rfl, -, hsections⟩ := h
  rcases entriesAt_cases (hsections table htable) with ⟨-, hempty⟩ | ⟨-, hdistinct⟩
  · rw [hempty]
    exact List.nodup_nil
  · exact hdistinct

/-- **Documents are laid over each other setting by setting.** -/
theorem valueAt_merge {lower upper : Json} (hlower : IsTabular lower) (hupper : IsTabular upper)
    {table : String} (htable : table ∈ sectionNames) (name : String) :
    valueAt (merge lower upper) table name =
      overlay (valueAt lower table name) (valueAt upper table name) := by
  obtain ⟨fields, rfl, -, hsections⟩ := hlower
  obtain ⟨above, rfl, hnodup, hsections'⟩ := hupper
  have hlookup : (mergeFields fields above).lookup table =
      overlay (fields.lookup table) (above.lookup table) := lookup_mergeFields hnodup table
  show (entriesAt (.obj (mergeFields fields above)) table).lookup name = _
  rcases entriesAt_cases (hsections' table htable) with ⟨hnone, hempty⟩ | ⟨habove, hdistinct⟩
  · rw [hnone, overlay_none] at hlookup
    rw [entriesAt_congr hlookup, valueAt, valueAt, hempty, List.lookup_nil, overlay_none]
  · rcases entriesAt_cases (hsections table htable) with ⟨hnone, hempty⟩ | ⟨hbelow, -⟩
    · rw [hnone, none_overlay] at hlookup
      rw [entriesAt_congr hlookup, valueAt, valueAt, hempty, List.lookup_nil, none_overlay]
    · rw [hbelow, habove] at hlookup
      rw [entriesAt_of_lookup hlookup]
      exact lookup_mergeFields hdistinct name

end Phrasebook.Settings
