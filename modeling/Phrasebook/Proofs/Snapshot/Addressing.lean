import Phrasebook.Proofs.Snapshot.Accounting

/-!
# Entries by their ids

An entry is known by the key of its alias, which the author chose or which is made of the layer and
the phrase. The test for repetitions compares layers and phrases and never keys, so two entries may
end up with one key. Then the look-up finds the earlier of them, and the later has no address.

## Where keys collide

Every entry has an address exactly if the keys of the admitted aliases differ. Keys can fail to
differ in three ways: two authors choose the same one, an author chooses one that is made of the
layer and the phrase of another alias, or a colon in a layer is taken for the one between layer and
phrase. `nodup_map_key` says that there is no fourth way.
-/

namespace Phrasebook

/-! ## Keys -/

namespace Alias

theorem key_of_id_eq_none {a : Alias} (h : a.id = none) : a.key = a.layer ++ ":" ++ a.pattern := by
  rw [key, h, Option.getD_none]

theorem key_of_id_eq_some {a : Alias} {id : String} (h : a.id = some id) : a.key = id := by
  rw [key, h, Option.getD_some]

theorem toList_key_of_id_eq_none {a : Alias} (h : a.id = none) :
    a.key.toList = a.layer.toList ++ ':' :: a.pattern.toList := by
  rw [key_of_id_eq_none h]
  simp

/-- What stands before the first colon of a text. -/
theorem takeWhile_ne_colon {layer : List Char} (h : ':' ∉ layer) (phrase : List Char) :
    (layer ++ ':' :: phrase).takeWhile (· ≠ ':') = layer := by
  have hfree : ∀ c ∈ layer, decide (c ≠ ':') = true := by
    intro c hc
    exact decide_eq_true (ne_of_mem_of_not_mem hc h)
  rw [List.takeWhile_append_of_pos hfree]
  simp

/-- Without colons in the layers, a key that is made up tells what it is made of. -/
theorem samePhrase_of_key_eq {a b : Alias} (ha : a.id = none) (hb : b.id = none)
    (hlayer : ':' ∉ a.layer.toList) (hother : ':' ∉ b.layer.toList) (h : a.key = b.key) :
    a.SamePhrase b := by
  have hkeys : a.layer.toList ++ ':' :: a.pattern.toList =
      b.layer.toList ++ ':' :: b.pattern.toList := by
    rw [← toList_key_of_id_eq_none ha, h, toList_key_of_id_eq_none hb]
  have hlayers : a.layer.toList = b.layer.toList := by
    rw [← takeWhile_ne_colon hlayer a.pattern.toList, hkeys, takeWhile_ne_colon hother]
  rw [hlayers] at hkeys
  have hphrases := (List.cons.inj (List.append_cancel_left hkeys)).2
  exact ⟨String.toList_inj.mp hlayers, String.toList_inj.mp hphrases⟩

/-- A chosen key without a colon is not made up. -/
theorem key_ne_of_id_eq_some {a b : Alias} {id : String} (ha : a.id = some id) (hb : b.id = none)
    (hid : ':' ∉ id.toList) : a.key ≠ b.key := by
  intro h
  refine hid ?_
  rw [← key_of_id_eq_some ha, h, toList_key_of_id_eq_none hb]
  exact List.mem_append_right _ List.mem_cons_self

end Alias

/-- No two admitted aliases have the same phrase in the same layer. -/
theorem pairwise_admitted (aliases : List Alias) :
    (admitted aliases).Pairwise fun a b ↦ ¬a.SamePhrase b := by
  induction aliases using List.reverseRecOn with
  | nil => exact List.Pairwise.nil
  | append_singleton aliases c ih =>
    rw [admitted_append_singleton]
    by_cases hadmitted : Occurrence.IsAdmitted ⟨aliases, c⟩
    · rw [if_pos hadmitted]
      refine List.pairwise_append.mpr ⟨ih, List.pairwise_singleton _ _, ?_⟩
      rintro b hb _ (_ | ⟨_, hnil⟩) hsame
      · exact hadmitted.2 (exists_mem_admitted_iff.mp ⟨b, hb, hsame⟩)
      · exact absurd hnil List.not_mem_nil
    · rw [if_neg hadmitted, List.append_nil]
      exact ih

/-- **The three ways in which keys collide are all there are.** -/
theorem nodup_map_key {aliases : List Alias}
    (hchosen : ((admitted aliases).filterMap (·.id)).Nodup)
    (hids : ∀ a ∈ admitted aliases, ∀ id, a.id = some id → ':' ∉ id.toList)
    (hlayers : ∀ a ∈ admitted aliases, a.id = none → ':' ∉ a.layer.toList) :
    ((admitted aliases).map (·.key)).Nodup := by
  refine List.pairwise_map.mpr ?_
  have hboth := (pairwise_admitted aliases).and (List.pairwise_filterMap.mp hchosen)
  refine hboth.imp_of_mem fun {a b} ha hb ⟨hphrase, hdistinct⟩ hkey ↦ ?_
  cases hida : a.id with
  | none =>
    cases hidb : b.id with
    | none =>
      exact hphrase (Alias.samePhrase_of_key_eq hida hidb (hlayers a ha hida)
        (hlayers b hb hidb) hkey)
    | some id => exact Alias.key_ne_of_id_eq_some hidb hida (hids b hb id hidb) hkey.symm
  | some id =>
    cases hidb : b.id with
    | none => exact Alias.key_ne_of_id_eq_some hida hidb (hids a ha id hida) hkey
    | some other =>
      rw [Alias.key_of_id_eq_some hida, Alias.key_of_id_eq_some hidb] at hkey
      exact hdistinct id hida other hidb hkey

namespace Snapshot

variable {aliases : List Alias} {snapshot : Snapshot}

/-! ## The look-up -/

/-- The look-up finds the first entry with an id. -/
theorem Indexed.get?_eq_some_iff (h : Indexed snapshot) {id : String} {entry : Entry} :
    snapshot.get? id = some entry ↔
      entry ∈ snapshot.entries ∧ entry.id = id ∧
        ∀ other ∈ snapshot.entries, other.id = id → entry.position ≤ other.position := by
  have hascending := h.ascending
  rw [get?, List.find?_eq_some_iff_append]
  constructor
  · rintro ⟨hid, earlier, later, hentries, hearlier⟩
    rw [hentries] at hascending ⊢
    refine ⟨List.mem_append_right _ List.mem_cons_self, beq_iff_eq.mp hid, ?_⟩
    intro other hother heq
    rcases List.mem_append.mp hother with hbefore | hafter
    · exact absurd (beq_iff_eq.mpr heq) (by simpa using hearlier other hbefore)
    · rcases List.mem_cons.mp hafter with rfl | hafter
      · exact Nat.le_refl _
      · exact Nat.le_of_lt
          ((List.pairwise_cons.mp (List.pairwise_append.mp hascending).2.1).1 other hafter)
  · rintro ⟨hmem, hid, hfirst⟩
    obtain ⟨earlier, later, hentries⟩ := List.append_of_mem hmem
    refine ⟨beq_iff_eq.mpr hid, earlier, later, hentries, fun other hother ↦ ?_⟩
    have hother' : other ∈ snapshot.entries := hentries ▸ List.mem_append_left _ hother
    rw [hentries] at hascending
    have hlt : other.position < entry.position :=
      (List.pairwise_append.mp hascending).2.2 other hother entry List.mem_cons_self
    have hne : other.id ≠ id := fun heq ↦ Nat.not_le_of_lt hlt (hfirst other hother' heq)
    simpa using hne

/-- Every entry has an address exactly if no id occurs twice. -/
theorem Indexed.forall_get?_iff (h : Indexed snapshot) :
    (∀ entry ∈ snapshot.entries, snapshot.get? entry.id = some entry) ↔
      (snapshot.entries.map (·.id)).Nodup := by
  constructor
  · intro haddress
    refine List.pairwise_map.mpr (h.ascending.imp_of_mem fun {a b} ha hb hlt hid ↦ ?_)
    -- the later of two entries with one id is not the one that is found
    obtain ⟨-, -, hfirst⟩ := h.get?_eq_some_iff.mp (haddress b hb)
    exact Nat.not_le_of_lt hlt (hfirst a ha hid)
  · intro hnodup entry hentry
    refine h.get?_eq_some_iff.mpr ⟨hentry, rfl, fun other hother hid ↦ ?_⟩
    obtain rfl := List.inj_on_of_nodup_map hnodup hother hentry hid
    exact Nat.le_refl _

theorem Records.map_id (h : Records aliases snapshot) :
    snapshot.entries.map (·.id) = (admitted aliases).map (·.key) := by
  rw [← h.definitions, List.map_map]
  exact List.map_congr_left fun entry hentry ↦ (h.made entry hentry).id

/-- The entries of a snapshot have addresses exactly if the keys of the admitted aliases differ. -/
theorem Records.forall_get?_iff (h : Records aliases snapshot) :
    (∀ entry ∈ snapshot.entries, snapshot.get? entry.id = some entry) ↔
      ((admitted aliases).map (·.key)).Nodup := by
  rw [h.indexed.forall_get?_iff, h.map_id]

/-- **Addresses.** The look-up finds the first entry with an id. So every entry of a snapshot is
found under its own id exactly if the keys of the admitted aliases differ, and they do when the
chosen ids differ and have no colon and the layers of aliases without an id have none either. -/
theorem addressable_build_iff (version : UInt64) (aliases : List Alias) :
    let snapshot := build version aliases
    (∀ id entry, snapshot.get? id = some entry ↔
      entry ∈ snapshot.entries ∧ entry.id = id ∧
        ∀ other ∈ snapshot.entries, other.id = id → entry.position ≤ other.position) ∧
    ((∀ entry ∈ snapshot.entries, snapshot.get? entry.id = some entry) ↔
      ((admitted aliases).map (·.key)).Nodup) ∧
    (((admitted aliases).filterMap (·.id)).Nodup →
      (∀ a ∈ admitted aliases, ∀ id, a.id = some id → ':' ∉ id.toList) →
      (∀ a ∈ admitted aliases, a.id = none → ':' ∉ a.layer.toList) →
      ∀ entry ∈ snapshot.entries, snapshot.get? entry.id = some entry) := by
  intro snapshot
  have hrecords : Records aliases snapshot := records_build version aliases
  refine ⟨fun id entry ↦ hrecords.indexed.get?_eq_some_iff, hrecords.forall_get?_iff, ?_⟩
  intro hchosen hids hlayers
  exact hrecords.forall_get?_iff.mpr (nodup_map_key hchosen hids hlayers)

/-- Two authors choose one id, and in the second list a colon in a layer makes two keys equal that
nobody chose. -/
theorem not_addressable_of_shared_key :
    (¬∀ entry ∈ (build 1 [
          { id := some "tasks", pattern := "my tasks" },
          { id := some "tasks", pattern := "open tasks" }]).entries,
        (build 1 [
          { id := some "tasks", pattern := "my tasks" },
          { id := some "tasks", pattern := "open tasks" }]).get? entry.id = some entry) ∧
    ¬∀ entry ∈ (build 1 [
          { layer := "founder:justin", pattern := "my tasks" },
          { layer := "founder", pattern := "justin:my tasks" }]).entries,
        (build 1 [
          { layer := "founder:justin", pattern := "my tasks" },
          { layer := "founder", pattern := "justin:my tasks" }]).get? entry.id = some entry := by
  constructor
  · rw [(records_build 1 _).forall_get?_iff]
    decide +kernel
  · rw [(records_build 1 _).forall_get?_iff]
    decide +kernel

end Snapshot

end Phrasebook
