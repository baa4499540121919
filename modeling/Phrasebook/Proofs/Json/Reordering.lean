import Mathlib.Data.List.Induction
import Phrasebook.Proofs.Double.Arithmetic
import Phrasebook.Proofs.Json.Reading

/-!
# The order of fields

Readers find the parts of a record by name, so it should make no difference that a value is put into
its normal form first: its fields sorted, of two with one name the later kept, at every depth.
`ReadsNormalForm` says this of a reader, and it passes from the readers of the parts to that of the
whole.

It is not true without a condition. A number that is infinite or undefined can be read from where
JSON has no place for it, and its normal form is null. So the property is relative to what holds of
the values that are read.
-/

namespace Phrasebook

/-! ## Fields in ascending order -/

namespace NameMap

variable {β γ : Type}

theorem nodup_keys (map : NameMap β) : map.keys.Nodup :=
  (List.pairwise_map.mpr map.ascending).imp fun hlt ↦ String.ne_of_lt hlt

theorem ofList_append_singleton (fields : List (String × β)) (field : String × β) :
    ofList (fields ++ [field]) = (ofList fields).insert field.1 field.2 := by
  rw [ofList, List.foldl_append, List.foldl_cons, List.foldl_nil, ofList]

/-- The last field with a name counts. -/
theorem get?_ofList (fields : List (String × β)) (name : String) :
    (ofList fields).get? name =
      (fields.filter fun field ↦ field.1 == name).getLast?.map (·.2) := by
  induction fields using List.reverseRecOn with
  | nil => rfl
  | append_singleton fields field ih =>
    rw [ofList_append_singleton, List.filter_append]
    by_cases hname : field.1 = name
    · subst hname
      rw [get?_insert_self, List.filter_cons, if_pos (beq_self_eq_true field.1), List.filter_nil,
        List.getLast?_concat, Option.map_some]
    · rw [get?_insert_of_ne _ (Ne.symm hname), ih,
        List.filter_cons_of_neg (by simpa using hname), List.filter_nil, List.append_nil]

/-- What is alone under its name is kept. -/
theorem filter_ofList {fields : List (String × β)} {name : String} {part : Option β}
    (h : (fields.filter fun field ↦ field.1 == name).map (·.2) = part.toList) :
    ((ofList fields).entries.filter fun field ↦ field.1 == name).map (·.2) = part.toList := by
  have hlast : (fields.filter fun field ↦ field.1 == name).getLast?.map (·.2) = part := by
    rw [← List.getLast?_map, h]
    cases part <;> rfl
  rw [Record.map_snd_filter_of_nodup (nodup_keys _)]
  show ((ofList fields).get? name).toList = part.toList
  rw [get?_ofList, hlast]

/-- The two fields have the same name, and their values are related. -/
def FieldRel (R : β → γ → Prop) (field : String × β) (other : String × γ) : Prop :=
  field.1 = other.1 ∧ R field.2 other.2

theorem forall₂_insertEntry {R : β → γ → Prop} (name : String) {value : β} {other : γ}
    (hvalue : R value other) {entries : List (String × β)} {others : List (String × γ)}
    (h : List.Forall₂ (FieldRel R) entries others) :
    List.Forall₂ (FieldRel R) (insertEntry name value entries) (insertEntry name other others) := by
  induction h with
  | nil => exact List.Forall₂.cons ⟨rfl, hvalue⟩ List.Forall₂.nil
  | @cons first second rest rest' hfirst hrest ih =>
    rw [insertEntry, insertEntry, hfirst.1]
    split
    · exact List.Forall₂.cons ⟨rfl, hvalue⟩ (List.Forall₂.cons hfirst hrest)
    · split
      · exact List.Forall₂.cons hfirst ih
      · exact List.Forall₂.cons ⟨rfl, hvalue⟩ hrest

/-- Related fields make related maps. -/
theorem forall₂_ofList {R : β → γ → Prop} {fields : List (String × β)}
    {others : List (String × γ)} (h : List.Forall₂ (FieldRel R) fields others) :
    List.Forall₂ (FieldRel R) (ofList fields).entries (ofList others).entries := by
  have hfold : ∀ (map : NameMap β) (map' : NameMap γ),
      List.Forall₂ (FieldRel R) map.entries map'.entries →
        List.Forall₂ (FieldRel R)
          (fields.foldl (fun map field ↦ map.insert field.1 field.2) map).entries
          (others.foldl (fun map field ↦ map.insert field.1 field.2) map').entries := by
    induction h with
    | nil => exact fun _ _ hmap ↦ hmap
    | @cons field other fields others hfield _ ih =>
      intro map map' hmap
      refine ih _ _ ?_
      show List.Forall₂ (FieldRel R) (insertEntry field.1 field.2 map.entries)
        (insertEntry other.1 other.2 map'.entries)
      rw [hfield.1]
      exact forall₂_insertEntry other.1 hfield.2 hmap
  exact hfold empty empty List.Forall₂.nil

end NameMap

/-! ## Single values, lists and maps -/

namespace Json

open Decoded

variable {α : Type}

/-- A value that is read comes to the same in its normal form, if what it comes to satisfies `p`. -/
def ReadsNormalForm (decode : Json → Decoded α) (p : α → Prop) : Prop :=
  ∀ value a, decode value = .ok a → p a → decode value.normalize = .ok a

theorem readsNormalForm_decodeText : ReadsNormalForm decodeText fun _ ↦ True := by
  intro value s h _
  rcases decodeText_eq_ok_iff.mp h with rfl | ⟨c, rfl, rfl⟩
  · rfl
  · rfl

theorem readsNormalForm_decodeBool : ReadsNormalForm decodeBool fun _ ↦ True := by
  intro value b h _
  cases value with
  | bool => exact h
  | null | int | float | char | str | arr | obj => cases h

theorem readsNormalForm_decodeInt32 : ReadsNormalForm decodeInt32 fun _ ↦ True := by
  intro value n h _
  cases value with
  | int => exact h
  | null | bool | float | char | str | arr | obj => cases h

/-- A number has to be finite. -/
theorem readsNormalForm_decodeFloat : ReadsNormalForm decodeFloat fun x ↦ x.isFinite = true := by
  intro value x h hfinite
  cases value with
  | int => exact h
  | float y =>
    obtain rfl := Decoded.ok.inj h
    obtain ⟨hnan, hinf⟩ := Double.isFinite_iff.mp hfinite
    rw [(IsNormal.float hnan hinf).normalize_eq]
    exact h
  | null | bool | char | str | arr | obj => cases h

/-- A text that may be null. -/
theorem readsNormalForm_decodeOption_text :
    ReadsNormalForm (decodeOption decodeText) fun _ ↦ True := by
  intro value s h _
  cases value with
  | null | str | char => exact h
  | bool | int | float | arr | obj => cases h

/-- What may stand for nothing in a word's field has no parts. -/
theorem normalize_eq_of_acceptsPayload {payload : Json}
    (h : Dialect.nested.acceptsPayload payload = true) : payload.normalize = payload := by
  cases payload with
  | null => rfl
  | obj fields =>
    cases fields with
    | nil => rfl
    | cons => cases h
  | bool | int | float | char | str | arr => cases h

/-- A word, or an object for one. -/
theorem readsNormalForm_decodeWord (words : List (String × α)) :
    ReadsNormalForm (decodeWord .nested words) fun _ ↦ True := by
  intro value a h _
  cases value with
  | str => exact h
  | obj fields =>
    obtain ⟨word, payload, rfl, haccepts, hword⟩ := decodeWord_obj_eq_ok_iff.mp h
    refine decodeWord_obj_eq_ok_iff.mpr ⟨word, payload.normalize, rfl, ?_, hword⟩
    rw [normalize_eq_of_acceptsPayload haccepts]
    exact haccepts
  | null | bool | int | float | char | arr => cases h

theorem readsNormalForm_decodeTag (words : List (String × α)) :
    ReadsNormalForm (decodeTag words) fun _ ↦ True := by
  intro value a h _
  obtain ⟨word, hword, ha⟩ := andThen_eq_ok_iff.mp h
  exact andThen_eq_ok_iff.mpr ⟨word, readsNormalForm_decodeText value word hword trivial, ha⟩

theorem readsNormalForm_decodeParams : ReadsNormalForm decodeParams fun _ ↦ True := by
  intro value params h _
  rw [decodeParams_eq_ok_iff] at h ⊢
  rw [(isNormal_normalize value).normalize_eq, h]

theorem ReadsNormalForm.decodeList {decode : Json → Decoded α} {p : α → Prop}
    (h : ReadsNormalForm decode p) : ReadsNormalForm (Json.decodeList decode) fun values ↦
      ∀ a ∈ values, p a := by
  intro value values hread hp
  obtain ⟨items, rfl, hitems⟩ := decodeList_eq_ok_iff.mp hread
  rw [normalize_arr]
  refine decodeList_eq_ok_iff.mpr ⟨_, rfl, List.forall₂_map_left_iff.mpr ?_⟩
  clear hread
  induction hitems with
  | nil => exact List.Forall₂.nil
  | @cons item a items values ha _ ih =>
    obtain ⟨hpa, hpvalues⟩ := List.forall_mem_cons.mp hp
    exact List.Forall₂.cons (h item a ha hpa) (ih hpvalues)

theorem readsNormalForm_decodeNames : ReadsNormalForm decodeNames fun _ ↦ True := by
  intro value names h _
  obtain ⟨texts, htexts, rfl⟩ := map_eq_ok_iff.mp h
  exact map_eq_ok_iff.mpr
    ⟨texts, readsNormalForm_decodeText.decodeList value texts htexts fun _ _ ↦ trivial, rfl⟩

theorem decodeFields_eq_ok_iff {decode : Json → Decoded α} {fields : List (String × Json)}
    {values : List (String × α)} :
    decodeFields decode fields = .ok values ↔
      List.Forall₂ (NameMap.FieldRel fun value a ↦ decode value = .ok a) fields values := by
  induction fields generalizing values with
  | nil =>
    rw [decodeFields, List.forall₂_nil_left_iff]
    exact ⟨fun h ↦ (Decoded.ok.inj h).symm, fun h ↦ congrArg Decoded.ok h.symm⟩
  | cons field rest ih =>
    obtain ⟨name, value⟩ := field
    rw [List.forall₂_cons_left_iff]
    simp only [decodeFields, seq_eq_ok_iff, map_eq_ok_iff, ih]
    constructor
    · rintro ⟨_, ⟨_, hfirst, rfl⟩, values, hvalues, rfl⟩
      obtain ⟨a, ha, rfl⟩ := map_eq_ok_iff.mp hfirst
      exact ⟨_, values, ⟨rfl, under_eq_ok_iff.mp ha⟩, hvalues, rfl⟩
    · rintro ⟨⟨_, a⟩, values, ⟨rfl, ha⟩, hvalues, rfl⟩
      exact ⟨_, ⟨_, map_eq_ok_iff.mpr ⟨a, under_eq_ok_iff.mpr ha, rfl⟩, rfl⟩, values, hvalues, rfl⟩

/-- The fields of a map are sorted before or after they are read. -/
theorem ReadsNormalForm.decodeMap {decode : Json → Decoded α}
    (h : ReadsNormalForm decode fun _ ↦ True) :
    ReadsNormalForm (Json.decodeMap decode) fun _ ↦ True := by
  intro value map hread _
  cases value with
  | obj fields =>
    obtain ⟨values, hvalues, rfl⟩ := map_eq_ok_iff.mp hread
    have hnormal : List.Forall₂ (NameMap.FieldRel fun value a ↦ decode value = .ok a)
        (fields.map fun field ↦ (field.1, normalize field.2)) values :=
      List.forall₂_map_left_iff.mpr ((decodeFields_eq_ok_iff.mp hvalues).imp
        fun field a hfield ↦ ⟨hfield.1, h field.2 a.2 hfield.2 trivial⟩)
    rw [normalize_obj]
    exact map_eq_ok_iff.mpr ⟨_, decodeFields_eq_ok_iff.mpr (NameMap.forall₂_ofList hnormal),
      NameMap.ofList_entries _⟩
  | null | bool | int | float | char | str | arr => cases hread

end Json

/-! ## Records -/

namespace Record

open Decoded Json

variable {α : Type} {record : Record} {index : Nat} {name : String} {a : α}

/-- The record that the normal form of a value is taken for. -/
def normalize : Record → Record
  | named fields =>
    .named (NameMap.ofList (fields.map fun field ↦ (field.1, Json.normalize field.2))).entries
  | ordered items => .ordered (items.map Json.normalize)

theorem ofJson_normalize {dialect : Dialect} {count : Nat} {value : Json}
    (h : ofJson dialect count value = .ok record) :
    ofJson dialect count value.normalize = .ok record.normalize := by
  cases value with
  | obj fields =>
    obtain rfl := Decoded.ok.inj h
    rw [normalize_obj]
    rfl
  | arr items =>
    obtain rfl := eq_ordered_of_ofJson_arr h
    rw [normalize_arr]
    rw [ofJson] at h ⊢
    rw [List.length_map]
    split at h
    · cases h
    · rename_i hlength
      rw [if_neg hlength]
      rfl
  | null | bool | int | float | char | str => cases h

theorem part?_normalize {part : Option Json} (h : record.part? index name = .ok part) :
    record.normalize.part? index name = .ok (part.map Json.normalize) := by
  cases record with
  | ordered items =>
    rw [← Decoded.ok.inj h]
    exact congrArg Decoded.ok List.getElem?_map
  | named fields =>
    refine part?_named_eq_ok_iff.mpr (NameMap.filter_ofList ?_)
    rw [List.filter_map, List.map_map]
    have hparts := congrArg (List.map Json.normalize) (part?_named_eq_ok_iff.mp h)
    rw [List.map_map] at hparts
    rw [Option.toList_map, ← hparts]
    rfl

theorem required_normalize {decode : Json → Decoded α} {p : α → Prop}
    (hdecode : ReadsNormalForm decode p) (hp : p a)
    (h : record.required index name decode = .ok a) :
    record.normalize.required index name decode = .ok a := by
  obtain ⟨value, hpart, hvalue⟩ := required_eq_ok_iff.mp h
  exact required_eq_ok_iff.mpr ⟨_, part?_normalize hpart, hdecode value a hvalue hp⟩

theorem withDefault_normalize {absent : α} {decode : Json → Decoded α} {p : α → Prop}
    (hdecode : ReadsNormalForm decode p) (hp : p a)
    (h : record.withDefault index name absent decode = .ok a) :
    record.normalize.withDefault index name absent decode = .ok a := by
  rcases withDefault_eq_ok_iff.mp h with ⟨hpart, habsent⟩ | ⟨value, hpart, hvalue⟩
  · exact withDefault_eq_ok_iff.mpr (Or.inl ⟨part?_normalize hpart, habsent⟩)
  · exact withDefault_eq_ok_iff.mpr
      (Or.inr ⟨_, part?_normalize hpart, hdecode value a hvalue hp⟩)

theorem optional_normalize {s : Option String}
    (h : record.optional index name decodeText = .ok s) :
    record.normalize.optional index name decodeText = .ok s :=
  withDefault_normalize readsNormalForm_decodeOption_text trivial h

/-- The order of fields makes no difference to a record if it makes none to its parts. -/
theorem readsNormalForm {dialect : Dialect} {count : α → Nat} {decode : Json → Decoded α}
    {Reads : Record → α → Prop} {p : α → Prop}
    (hdecode : ∀ {value a}, decode value = .ok a ↔
      ∃ record, ofJson dialect (count a) value = .ok record ∧ Reads record a)
    (hnormalize : ∀ {record a}, p a → Reads record a → Reads record.normalize a) :
    ReadsNormalForm decode p := by
  intro value a h ha
  obtain ⟨record, hrecord, hread⟩ := hdecode.mp h
  exact hdecode.mpr ⟨_, ofJson_normalize hrecord, hnormalize ha hread⟩

end Record

end Phrasebook
