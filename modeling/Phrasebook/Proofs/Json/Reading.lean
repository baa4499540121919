import Mathlib.Data.List.Forall2
import Phrasebook.Json.Decoded
import Phrasebook.Proofs.Json.Normal

/-!
# When reading succeeds

What a reader has to find in order to give a value, whatever faults it gives otherwise: for the
combinators that readers are made of, for lists and maps, and for the parts of a record. Together
with what the parts of a written record are, this is how a record reads back.
-/

namespace Phrasebook

/-! ## Combinators -/

namespace Decoded

variable {α β : Type}

theorem map_eq_ok_iff {f : α → β} {a : Decoded α} {b : β} :
    f <$> a = ok b ↔ ∃ x, a = ok x ∧ f x = b := by
  cases a with
  | ok x =>
    constructor
    · rintro ⟨⟩
      exact ⟨x, rfl, rfl⟩
    · rintro ⟨_, ⟨⟩, rfl⟩
      rfl
  | fault e =>
    constructor
    · rintro ⟨⟩
    · rintro ⟨_, ⟨⟩, _⟩

theorem seq_eq_ok_iff {f : Decoded (α → β)} {a : Decoded α} {b : β} :
    f <*> a = ok b ↔ ∃ g, f = ok g ∧ ∃ x, a = ok x ∧ g x = b := by
  cases f with
  | ok g =>
    cases a with
    | ok x =>
      constructor
      · rintro ⟨⟩
        exact ⟨g, rfl, x, rfl, rfl⟩
      · rintro ⟨_, ⟨⟩, _, ⟨⟩, rfl⟩
        rfl
    | fault e =>
      constructor
      · rintro ⟨⟩
      · rintro ⟨_, _, _, ⟨⟩, _⟩
  | fault e =>
    constructor
    · cases a <;> rintro ⟨⟩
    · rintro ⟨_, ⟨⟩, _⟩

theorem andThen_eq_ok_iff {a : Decoded α} {f : α → Decoded β} {b : β} :
    a.andThen f = ok b ↔ ∃ x, a = ok x ∧ f x = ok b := by
  cases a with
  | ok x =>
    constructor
    · intro h
      exact ⟨x, rfl, h⟩
    · rintro ⟨_, ⟨⟩, h⟩
      exact h
  | fault e =>
    constructor
    · rintro ⟨⟩
    · rintro ⟨_, ⟨⟩, _⟩

@[simp] theorem under_eq_ok_iff {place : String} {a : Decoded α} {x : α} :
    a.under place = ok x ↔ a = ok x := by
  cases a with
  | ok y => rfl
  | fault e => exact iff_of_false nofun nofun

end Decoded

/-! ## Single values, lists and maps -/

namespace Json

open Decoded

variable {α : Type}

/-- What is read as a text is written as that text. -/
theorem decodeText_eq_ok_iff {value : Json} {s : String} :
    decodeText value = .ok s ↔ value = .str s ∨ ∃ c, value = .char c ∧ s = String.singleton c := by
  cases value with
  | str t => simp [decodeText]
  | char c => simp [decodeText, eq_comm]
  | null | bool | int | float | arr | obj => simp [decodeText, Decoded.fail]

/-- A word may be the name of an object's only field, with nothing in it. -/
theorem decodeWord_obj_eq_ok_iff {dialect : Dialect} {words : List (String × α)}
    {fields : List (String × Json)} {a : α} :
    decodeWord dialect words (.obj fields) = .ok a ↔
      ∃ word payload, fields = [(word, payload)] ∧ dialect.acceptsPayload payload = true ∧
        decodeWordText words word = .ok a := by
  constructor
  · intro h
    rw [decodeWord] at h
    split at h
    · rename_i word payload rest hentries
      obtain ⟨b, hword, hb⟩ := andThen_eq_ok_iff.mp (under_eq_ok_iff.mp h)
      split at hb
      · rename_i haccepts
        obtain ⟨hlength, haccepts⟩ := Bool.and_eq_true_iff.mp haccepts
        obtain ⟨⟨name, value⟩, rfl⟩ := List.length_eq_one_iff.mp (of_decide_eq_true hlength)
        obtain ⟨⟨rfl, rfl⟩, -⟩ := (List.cons.inj hentries).imp Prod.mk.inj id
        exact ⟨name, value, rfl, haccepts, hword.trans hb⟩
      · cases hb
    · cases h
  · rintro ⟨word, payload, rfl, haccepts, hword⟩
    refine under_eq_ok_iff.mpr (andThen_eq_ok_iff.mpr ⟨a, hword, if_pos ?_⟩)
    exact haccepts

theorem decodeItems_eq_ok_iff {decode : Json → Decoded α} {index : Nat} {items : List Json}
    {values : List α} :
    decodeItems decode index items = .ok values ↔
      List.Forall₂ (fun item value ↦ decode item = .ok value) items values := by
  induction items generalizing index values with
  | nil =>
    rw [decodeItems, List.forall₂_nil_left_iff]
    exact ⟨fun h ↦ (Decoded.ok.inj h).symm, fun h ↦ congrArg Decoded.ok h.symm⟩
  | cons item rest ih =>
    simp only [decodeItems, seq_eq_ok_iff, map_eq_ok_iff, under_eq_ok_iff, ih]
    rw [List.forall₂_cons_left_iff]
    constructor
    · rintro ⟨_, ⟨value, hvalue, rfl⟩, values, hvalues, rfl⟩
      exact ⟨value, values, hvalue, hvalues, rfl⟩
    · rintro ⟨value, values, hvalue, hvalues, rfl⟩
      exact ⟨_, ⟨value, hvalue, rfl⟩, values, hvalues, rfl⟩

theorem decodeList_eq_ok_iff {decode : Json → Decoded α} {value : Json} {values : List α} :
    decodeList decode value = .ok values ↔
      ∃ items, value = .arr items ∧
        List.Forall₂ (fun item value ↦ decode item = .ok value) items values := by
  cases value with
  | arr items =>
    rw [decodeList, decodeItems_eq_ok_iff]
    exact ⟨fun h ↦ ⟨items, rfl, h⟩, by rintro ⟨_, ⟨⟩, h⟩; exact h⟩
  | null | bool | int | float | char | str | obj => simp [decodeList, Decoded.fail]

/-- A list of written values reads back when each of them does. -/
theorem decodeList_map {decode : Json → Decoded α} {encode : α → Json} {values : List α}
    (h : ∀ value ∈ values, decode (encode value) = .ok value) :
    decodeList decode (.arr (values.map encode)) = .ok values :=
  decodeList_eq_ok_iff.mpr
    ⟨_, rfl, List.forall₂_map_left_iff.mpr (List.forall₂_same.mpr h)⟩

/-- A list is read only if each of its items is. -/
theorem forall_mem_items_of_decodeList {decode : Json → Decoded α} {items : List Json}
    {values : List α} (h : decodeList decode (.arr items) = .ok values) :
    ∀ item ∈ items, ∃ a, decode item = .ok a := by
  obtain ⟨_, ⟨⟩, hitems⟩ := decodeList_eq_ok_iff.mp h
  induction hitems with
  | nil => exact List.forall_mem_nil _
  | @cons item a _ _ ha hrest ih =>
    exact List.forall_mem_cons.mpr ⟨⟨a, ha⟩, ih (decodeList_eq_ok_iff.mpr ⟨_, rfl, hrest⟩)⟩

/-- What holds of all that is read as an item holds of all items that are read. -/
theorem forall_mem_of_decodeList {decode : Json → Decoded α} {p : α → Prop} {value : Json}
    {values : List α} (h : decodeList decode value = .ok values)
    (hp : ∀ item a, decode item = .ok a → p a) : ∀ a ∈ values, p a := by
  obtain ⟨items, rfl, hitems⟩ := decodeList_eq_ok_iff.mp h
  induction hitems with
  | nil => exact List.forall_mem_nil p
  | @cons item a _ _ ha hrest ih =>
    exact List.forall_mem_cons.mpr ⟨hp item a ha, ih (decodeList_eq_ok_iff.mpr ⟨_, rfl, hrest⟩)⟩

theorem decodeFields_ok (f : Json → α) (fields : List (String × Json)) :
    decodeFields (fun value ↦ .ok (f value)) fields =
      .ok (fields.map fun field ↦ (field.1, f field.2)) := by
  induction fields with
  | nil => rfl
  | cons field fields ih =>
    obtain ⟨name, value⟩ := field
    rw [decodeFields, ih]
    rfl

/-- Parameters are read by normalizing an object. -/
theorem decodeParams_eq_ok_iff {value : Json} {params : NameMap Json} :
    decodeParams value = .ok params ↔ value.normalize = .obj params.entries := by
  rw [normalize_eq_obj_iff]
  cases value with
  | obj fields =>
    rw [decodeParams, decodeMap, decodeFields_ok]
    constructor
    · rintro ⟨⟩
      exact ⟨fields, rfl, rfl⟩
    · rintro ⟨_, ⟨⟩, h⟩
      exact congrArg Decoded.ok (NameMap.ext h)
  | null | bool | int | float | char | str | arr => simp [decodeParams, decodeMap, Decoded.fail]

theorem decodeNames_texts (names : NameSet) : decodeNames (texts names.toList) = .ok names := by
  have hread : decodeList decodeText (texts names.toList) = .ok names.toList :=
    decodeList_map fun _ _ ↦ rfl
  rw [decodeNames, hread]
  exact congrArg Decoded.ok names.ofList_toList

theorem decodeNat_natCast {n high : Nat} (h : n < high) : decodeNat high (.int n) = .ok n := by
  have hrange : (0 : Int) ≤ n ∧ (n : Int) < high := ⟨Int.natCast_nonneg n, Int.ofNat_lt.mpr h⟩
  rw [decodeNat, decodeInt, if_pos hrange]
  rfl

theorem decodeInt32_toInt (n : Int32) : decodeInt32 (.int n.toInt) = .ok n := by
  have hrange : Int32.minValue.toInt ≤ n.toInt ∧ n.toInt < Int32.maxValue.toInt + 1 :=
    ⟨Int32.minValue_le_toInt n, Int.lt_add_one_of_le (Int32.toInt_le n)⟩
  rw [decodeInt32, decodeInt, if_pos hrange]
  exact congrArg Decoded.ok (Int32.ofInt_toInt n)

end Json

/-! ## Records -/

namespace Record

open Decoded

variable {α : Type} {record : Record} {index : Nat} {name : String}

theorem eq_ordered_of_ofJson_arr {dialect : Dialect} {count : Nat} {items : List Json}
    (h : ofJson dialect count (.arr items) = .ok record) : record = ordered items := by
  rw [ofJson] at h
  split at h
  · cases h
  · exact (Decoded.ok.inj h).symm

/-- A named part is what stands under its name, which is at most one value. -/
theorem part?_named_eq_ok_iff {fields : List (String × Json)} {part : Option Json} :
    (named fields).part? index name = .ok part ↔
      (fields.filter fun field ↦ field.1 == name).map (·.2) = part.toList := by
  rw [part?]
  split
  · rename_i hnone
    cases part <;> simp [hnone]
  · rename_i field hone
    cases part <;> simp [hone]
  · rename_i hnone hone
    cases hfields : fields.filter fun field ↦ field.1 == name with
    | nil => exact absurd hfields hnone
    | cons field rest =>
      -- two values under one name are a fault, and no part has two values
      cases rest with
      | nil => exact absurd hfields (hone field)
      | cons => cases part <;> simp [Decoded.fail]

/-- Under distinct names each has at most one value. -/
theorem map_snd_filter_of_nodup {β : Type} {fields : List (String × β)}
    (h : (fields.map (·.1)).Nodup) (name : String) :
    (fields.filter fun field ↦ field.1 == name).map (·.2) = (fields.lookup name).toList := by
  induction fields with
  | nil => rfl
  | cons first rest ih =>
    obtain ⟨hfirst, hrest⟩ := List.nodup_cons.mp h
    by_cases hname : first.1 = name
    · subst hname
      have hnone : rest.filter (fun field ↦ field.1 == first.1) = [] :=
        List.filter_eq_nil_iff.mpr fun field hfield heq ↦
          hfirst (List.mem_map.mpr ⟨field, hfield, beq_iff_eq.mp heq⟩)
      rw [List.filter_cons, if_pos (beq_self_eq_true first.1), hnone, List.lookup_cons_self]
      rfl
    · have hskip : (name == first.1) = false := beq_eq_false_iff_ne.mpr (Ne.symm hname)
      rw [List.filter_cons_of_neg (by simpa using hname), ih hrest, List.lookup_cons, hskip]

theorem part?_named_of_nodup {fields : List (String × Json)} (h : (fields.map (·.1)).Nodup) :
    (named fields).part? index name = .ok (fields.lookup name) :=
  part?_named_eq_ok_iff.mpr (map_snd_filter_of_nodup h name)

theorem required_eq_ok_iff {decode : Json → Decoded α} {a : α} :
    record.required index name decode = .ok a ↔
      ∃ value, record.part? index name = .ok (some value) ∧ decode value = .ok a := by
  unfold required
  rw [andThen_eq_ok_iff]
  constructor
  · rintro ⟨_ | value, hpart, h⟩
    · cases record <;> cases h
    · exact ⟨value, hpart, under_eq_ok_iff.mp h⟩
  · rintro ⟨value, hpart, h⟩
    exact ⟨some value, hpart, under_eq_ok_iff.mpr h⟩

theorem withDefault_eq_ok_iff {absent : α} {decode : Json → Decoded α} {a : α} :
    record.withDefault index name absent decode = .ok a ↔
      record.part? index name = .ok none ∧ absent = a ∨
        ∃ value, record.part? index name = .ok (some value) ∧ decode value = .ok a := by
  rw [withDefault, andThen_eq_ok_iff]
  constructor
  · rintro ⟨_ | value, hpart, h⟩
    · exact Or.inl ⟨hpart, Decoded.ok.inj h⟩
    · exact Or.inr ⟨value, hpart, under_eq_ok_iff.mp h⟩
  · rintro (⟨hpart, rfl⟩ | ⟨value, hpart, h⟩)
    · exact ⟨none, hpart, rfl⟩
    · exact ⟨some value, hpart, under_eq_ok_iff.mpr h⟩

section Named

variable {fields : List (String × Json)}

theorem required_named {decode : Json → Decoded α} {a : α} (value : Json)
    (hpart : (fields.filter fun field ↦ field.1 == name).map (·.2) = [value])
    (h : decode value = .ok a) : (named fields).required index name decode = .ok a :=
  required_eq_ok_iff.mpr ⟨value, part?_named_eq_ok_iff.mpr hpart, h⟩

theorem withDefault_named {absent : α} {decode : Json → Decoded α} {a : α} (value : Json)
    (hpart : (fields.filter fun field ↦ field.1 == name).map (·.2) = [value])
    (h : decode value = .ok a) : (named fields).withDefault index name absent decode = .ok a :=
  withDefault_eq_ok_iff.mpr (Or.inr ⟨value, part?_named_eq_ok_iff.mpr hpart, h⟩)

/-- A text that is left out when it is absent reads back. -/
theorem optional_named {s : Option String}
    (hpart : (fields.filter fun field ↦ field.1 == name).map (·.2) = (s.map Json.str).toList) :
    (named fields).optional index name Json.decodeText = .ok s := by
  rw [optional, withDefault_eq_ok_iff, part?_named_eq_ok_iff, hpart]
  cases s with
  | none => exact Or.inl ⟨rfl, rfl⟩
  | some s => exact Or.inr ⟨.str s, part?_named_eq_ok_iff.mpr hpart, rfl⟩

end Named

section Ordered

variable {items : List Json}

theorem required_ordered {decode : Json → Decoded α} {a : α} {value : Json}
    (hpart : items[index]? = some value) (h : decode value = .ok a) :
    (ordered items).required index name decode = .ok a :=
  required_eq_ok_iff.mpr ⟨value, congrArg Decoded.ok hpart, h⟩

theorem withDefault_ordered {absent : α} {decode : Json → Decoded α} {a : α} {value : Json}
    (hpart : items[index]? = some value) (h : decode value = .ok a) :
    (ordered items).withDefault index name absent decode = .ok a :=
  withDefault_eq_ok_iff.mpr (Or.inr ⟨value, congrArg Decoded.ok hpart, h⟩)

/-- A text that is null when it is absent reads back. -/
theorem optional_ordered {s : Option String}
    (hpart : items[index]? = some (Json.ofOption Json.str s)) :
    (ordered items).optional index name Json.decodeText = .ok s := by
  refine withDefault_ordered hpart ?_
  cases s with
  | none => rfl
  | some s => rfl

end Ordered

end Record

namespace Json

@[simp] theorem filter_optionalField (name other : String) (s : Option String) :
    (optionalField name s).filter (fun field ↦ field.1 == other) =
      if name == other then optionalField name s else [] := by
  cases s with
  | none => simp [optionalField]
  | some s =>
    rw [optionalField, List.filter_singleton]
    cases name == other <;> rfl

@[simp] theorem map_snd_optionalField (name : String) (s : Option String) :
    (optionalField name s).map (·.2) = (s.map Json.str).toList := by
  cases s with
  | none => rfl
  | some s => rfl

end Json

end Phrasebook
