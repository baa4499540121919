import Phrasebook.Proofs.Json.Reordering

/-!
# Round trips

A value is written and read back. What comes back is the value, also when the fields were sorted on
the way, and for a record also when its parts were written down in order, with null for an absent
one. In the other direction not every written form comes back, as it may leave parts out and name
others twice in vain; but the value that it is read as does.

Not every value can be written as JSON: an infinite number cannot, and a parameter of the model may
be one. So a round trip is for the values that have some property, and says as well that all values
that were read from JSON have it.
-/

namespace Phrasebook.Json

variable {α β : Type}

/-- What a JSON document may hold: numbers are finite, whole ones have 64 bits, with a sign or
without, and there are no single characters. -/
inductive IsPlain : Json → Prop where
  | null : IsPlain .null
  | bool (b : Bool) : IsPlain (.bool b)
  | int {n : Int} (hlow : -signedBound ≤ n) (hhigh : n < UInt64.size) : IsPlain (.int n)
  | float {x : Float} (hfinite : x.isFinite = true) : IsPlain (.float x)
  | str (s : String) : IsPlain (.str s)
  | arr {items : List Json} (hitems : ∀ item ∈ items, IsPlain item) : IsPlain (.arr items)
  | obj {fields : List (String × Json)} (hfields : ∀ field ∈ fields, IsPlain field.2) :
    IsPlain (.obj fields)

theorem IsPlain.forall_mem_items {items : List Json} (h : (Json.arr items).IsPlain) :
    ∀ item ∈ items, item.IsPlain := by
  cases h with
  | arr hitems => exact hitems

/-- Whether the value is null. -/
def isNull : Json → Bool
  | .null => true
  | _ => false

/-! ## Finite numbers -/

/-- All values that are read from JSON have the property. -/
def ReadsOnly (decode : Json → Decoded α) (p : α → Prop) : Prop :=
  ∀ value a, value.IsPlain → decode value = .ok a → p a

theorem readsOnly_decodeFloat : ReadsOnly decodeFloat fun x ↦ x.isFinite = true := by
  intro value x hplain h
  cases hplain with
  | float hfinite =>
    obtain rfl := Decoded.ok.inj h
    exact hfinite
  | @int n hlow hhigh =>
    obtain rfl := Decoded.ok.inj h
    have hsigned : (signedBound : ℤ) = 2 ^ 63 := rfl
    have hsize : ((UInt64.size : ℕ) : ℤ) = 2 ^ 64 := rfl
    exact Double.isFinite_ofInt (by omega) (by omega)
  | null | bool | str | arr | obj => cases h

theorem ReadsOnly.decodeList {decode : Json → Decoded α} {p : α → Prop} (h : ReadsOnly decode p) :
    ReadsOnly (Json.decodeList decode) fun values ↦ ∀ a ∈ values, p a := by
  intro value values hplain hread
  obtain ⟨items, rfl, hitems⟩ := decodeList_eq_ok_iff.mp hread
  replace hplain := hplain.forall_mem_items
  clear hread
  induction hitems with
  | nil => exact List.forall_mem_nil p
  | @cons item a items values ha _ ih =>
    obtain ⟨hitem, hrest⟩ := List.forall_mem_cons.mp hplain
    exact List.forall_mem_cons.mpr ⟨h item a hitem ha, ih hrest⟩

/-- The parts of a record are as plain as the record. -/
theorem IsPlain.part? {dialect : Dialect} {count index : Nat} {name : String} {value part : Json}
    {record : Record} (h : value.IsPlain) (hrecord : Record.ofJson dialect count value = .ok record)
    (hpart : record.part? index name = .ok (some part)) : part.IsPlain := by
  cases h with
  | arr hitems =>
    obtain rfl := Record.eq_ordered_of_ofJson_arr hrecord
    exact hitems part (List.mem_of_getElem? (Decoded.ok.inj hpart))
  | @obj fields hfields =>
    obtain rfl := Decoded.ok.inj hrecord
    have hmem : part ∈ (fields.filter fun field ↦ field.1 == name).map (·.2) := by
      rw [Record.part?_named_eq_ok_iff.mp hpart]
      exact List.mem_singleton_self part
    obtain ⟨field, hfield, rfl⟩ := List.mem_map.mp hmem
    exact hfields field (List.mem_of_mem_filter hfield)
  | null | bool | int | float | str => cases hrecord

/-! ## Written and read back -/

/-- Values with the property `p` come back from their written form, and the values that are read
from JSON are such. -/
structure RoundTrips (encode : α → Json) (decode : Json → Decoded α) (p : α → Prop) : Prop where
  /-- What is read is read as well with its fields sorted. -/
  readsNormalForm : ReadsNormalForm decode p
  /-- A value is read back from its written form, -/
  read_written : ∀ a, p a → decode (encode a) = .ok a
  /-- and from that with its fields sorted. -/
  read_sorted : ∀ a, p a → decode (encode a).normalize = .ok a
  /-- Of whatever is read, the written form is read as the same. -/
  reread : ∀ value a, value.IsPlain → decode value = .ok a →
    p a ∧ decode (encode a) = .ok a ∧ decode (encode a).normalize = .ok a

/-- A record with the parts `fields a`, in order and with null for an absent one. -/
structure RecordRoundTrips (fields : α → List (String × Json)) (encode : α → Json)
    (decode : Json → Decoded α) (p : α → Prop) : Prop extends RoundTrips encode decode p where
  /-- The written form leaves out what is absent. -/
  written : ∀ a, encode a = .obj ((fields a).filter fun field ↦ !field.2.isNull)
  /-- The value is read back from the array of all its parts, -/
  read_ordered : ∀ a, p a → decode (.arr ((fields a).map (·.2))) = .ok a
  /-- and from that with the fields in it sorted. -/
  read_ordered_sorted : ∀ a, p a → decode (Json.arr ((fields a).map (·.2))).normalize = .ok a

section

variable {fields : α → List (String × Json)} {encode : α → Json} {decode : Json → Decoded α}
  {p : α → Prop}

/-- A reader that does not mind the order of fields has to read what was written as it stands. -/
theorem RoundTrips.of_readsNormalForm (hnormal : ReadsNormalForm decode p)
    (honly : ReadsOnly decode p) (hwritten : ∀ a, p a → decode (encode a) = .ok a) :
    RoundTrips encode decode p where
  readsNormalForm := hnormal
  read_written := hwritten
  read_sorted a ha := hnormal _ a (hwritten a ha) ha
  reread value a hplain h := by
    have ha : p a := honly value a hplain h
    exact ⟨ha, hwritten a ha, hnormal _ a (hwritten a ha) ha⟩

theorem RecordRoundTrips.of_readsNormalForm (hnormal : ReadsNormalForm decode p)
    (honly : ReadsOnly decode p) (hread : ∀ a, p a → decode (encode a) = .ok a)
    (hwritten : ∀ a, encode a = .obj ((fields a).filter fun field ↦ !field.2.isNull))
    (hordered : ∀ a, p a → decode (.arr ((fields a).map (·.2))) = .ok a) :
    RecordRoundTrips fields encode decode p where
  toRoundTrips := .of_readsNormalForm hnormal honly hread
  written := hwritten
  read_ordered := hordered
  read_ordered_sorted a ha := hnormal _ a (hordered a ha) ha

/-- Two kinds of values with the same parts have the same round trips. -/
theorem RecordRoundTrips.congr (h : RecordRoundTrips fields encode decode p) (e : β ≃ α) :
    RecordRoundTrips (fun b ↦ fields (e b)) (fun b ↦ encode (e b))
      (fun value ↦ e.symm <$> decode value) fun b ↦ p (e b) := by
  have hread : ∀ value b, e.symm <$> decode value = .ok b ↔ decode value = .ok (e b) := by
    intro value b
    simp only [Decoded.map_eq_ok_iff, Equiv.symm_apply_eq, exists_eq_right]
  refine .of_readsNormalForm (fun value b hb hp ↦ ?_) (fun value b hplain hb ↦ ?_) (fun b hp ↦ ?_)
    (fun b ↦ h.written (e b)) fun b hp ↦ ?_
  · exact (hread _ b).mpr (h.readsNormalForm value (e b) ((hread value b).mp hb) hp)
  · exact (h.reread value (e b) hplain ((hread value b).mp hb)).1
  · exact (hread _ b).mpr (h.read_written (e b) hp)
  · exact (hread _ b).mpr (h.read_ordered (e b) hp)

end

end Phrasebook.Json
