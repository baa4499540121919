import Mathlib.Data.List.Sort
import Phrasebook.Proofs.Snapshot.Admission

/-!
# What becomes of each alias

Building a snapshot goes through the aliases once and keeps three things at the same time: the
entries, the positions under each layer, and the issues. Whether a phrase is taken is asked of the
entries made so far. Two of the three branches leave without an entry. What the three say together
is that every alias is accounted for: it has an entry, or an issue says why not.

## Occurrences

The same alias may stand in a list twice, and then it has an entry the first time only. So what
becomes of an alias is a matter of where it stands: an `Occurrence` is an alias together with those
before it. Whether it is admitted and what is reported about it are said of the occurrence alone,
without the snapshot; `Records` says that the snapshot of a list agrees with the occurrences in it.
-/

namespace Phrasebook

/-! ## Aliases where they stand -/

/-- An alias together with those that stand before it in a list. -/
structure Occurrence where
  earlier : List Alias
  definition : Alias

/-- Every alias of a list with those that stand before it, in order. -/
def occurrences (aliases : List Alias) : List Occurrence :=
  aliases.zipIdx.map fun (a, i) ↦ ⟨aliases.take i, a⟩

theorem occurrences_append_singleton (aliases : List Alias) (a : Alias) :
    occurrences (aliases ++ [a]) = occurrences aliases ++ [⟨aliases, a⟩] := by
  have hold : ∀ place ∈ aliases.zipIdx,
      (⟨(aliases ++ [a]).take place.2, place.1⟩ : Occurrence) =
        ⟨aliases.take place.2, place.1⟩ := by
    intro place hplace
    have hlt : place.2 < aliases.length := (List.mem_zipIdx' hplace).1
    rw [List.take_append_of_le_length (Nat.le_of_lt hlt)]
  rw [occurrences, List.zipIdx_append, List.map_append, List.map_congr_left hold, occurrences]
  simp

theorem map_definition_occurrences (aliases : List Alias) :
    (occurrences aliases).map (·.definition) = aliases := by
  rw [occurrences, List.map_map]
  exact List.zipIdx_map_fst 0 aliases

/-- The check finds no fault in the alias. -/
def Alias.IsSound (a : Alias) : Prop := a.check.1.isSome = true

instance (a : Alias) : Decidable a.IsSound := inferInstanceAs (Decidable (_ = true))

/-- The two aliases have the same phrase in the same layer. -/
def Alias.SamePhrase (a b : Alias) : Prop := a.layer = b.layer ∧ a.pattern = b.pattern

instance (a b : Alias) : Decidable (a.SamePhrase b) := inferInstanceAs (Decidable (_ ∧ _))

namespace Occurrence

/-- An alias without a fault that stands earlier has the phrase. -/
def IsTaken (o : Occurrence) : Prop := ∃ b ∈ o.earlier, b.IsSound ∧ b.SamePhrase o.definition

instance (o : Occurrence) : Decidable o.IsTaken := inferInstanceAs (Decidable (∃ b ∈ _, _))

/-- The alias gets an entry: it has no fault, and its phrase is not taken. -/
def IsAdmitted (o : Occurrence) : Prop := o.definition.IsSound ∧ ¬o.IsTaken

instance (o : Occurrence) : Decidable o.IsAdmitted := inferInstanceAs (Decidable (_ ∧ _))

/-- All that is reported about the alias: what its check finds and, if it has no fault, that its
phrase is taken. -/
def reported (o : Occurrence) : List Issue :=
  o.definition.check.2 ++
    if o.definition.IsSound ∧ o.IsTaken then
      [⟨o.definition.key, .duplicatePattern o.definition.layer o.definition.pattern⟩]
    else []

end Occurrence

/-! ## Issues and faults -/

namespace Alias

theorem aliasId_of_mem_checkWith {fits : Expression → Bool} {a : Alias} {issue : Issue}
    (h : issue ∈ (a.checkWith fits).2) : issue.aliasId = a.key := by
  rw [checkWith] at h
  cases hcompile : Pattern.compileWith fits a.pattern with
  | error error =>
    simp only [hcompile, List.mem_singleton] at h
    rw [h]
  | ok pattern =>
    simp only [hcompile, List.mem_map] at h
    obtain ⟨cause, -, rfl⟩ := h
    rfl

/-- The check gives no pattern exactly if one of its issues is a fault. -/
theorem not_isSound_iff {a : Alias} :
    ¬a.IsSound ↔ ∃ issue ∈ a.check.2, issue.isError = true := by
  rw [IsSound, check, checkWith]
  cases hcompile : Pattern.compileWith Expression.fits a.pattern with
  | error error => simp [Issue.isError, Issue.severity, Cause.severity]
  | ok pattern =>
    by_cases hany : ((a.causes pattern).map (Issue.mk a.key)).any Issue.isError = true
    · simp only [hany, if_true]
      simpa using List.any_eq_true.mp hany
    · simp only [hany]
      simpa using hany

end Alias

namespace Occurrence

variable {o : Occurrence}

theorem aliasId_of_mem_reported {issue : Issue} (h : issue ∈ o.reported) :
    issue.aliasId = o.definition.key := by
  rw [reported, List.mem_append] at h
  rcases h with hcheck | hrepeated
  · exact Alias.aliasId_of_mem_checkWith hcheck
  · split at hrepeated
    · rw [List.mem_singleton.mp hrepeated]
    · exact absurd hrepeated List.not_mem_nil

/-- **An alias is kept out exactly if a fault of it is reported.** -/
theorem not_isAdmitted_iff :
    ¬o.IsAdmitted ↔ ∃ issue ∈ o.reported, issue.isError = true := by
  by_cases hsound : o.definition.IsSound
  · have hcheck : ∀ issue ∈ o.definition.check.2, ¬issue.isError = true := by
      intro issue hissue herror
      exact Alias.not_isSound_iff.mpr ⟨issue, hissue, herror⟩ hsound
    by_cases htaken : o.IsTaken
    · -- the fault is the repetition
      refine iff_of_true (fun h ↦ h.2 htaken)
        ⟨⟨o.definition.key, .duplicatePattern o.definition.layer o.definition.pattern⟩, ?_, rfl⟩
      rw [reported, if_pos ⟨hsound, htaken⟩]
      exact List.mem_append_right _ (List.mem_singleton.mpr rfl)
    · refine iff_of_false (not_not.mpr ⟨hsound, htaken⟩) ?_
      rintro ⟨issue, hissue, herror⟩
      rw [reported, if_neg fun h ↦ htaken h.2, List.append_nil] at hissue
      exact hcheck issue hissue herror
  · refine iff_of_true (fun h ↦ hsound h.1) ?_
    obtain ⟨issue, hissue, herror⟩ := Alias.not_isSound_iff.mp hsound
    exact ⟨issue, List.mem_append_left _ hissue, herror⟩

end Occurrence

/-! ## The aliases that get an entry -/

/-- The aliases of a list that get an entry, in order. -/
def admitted (aliases : List Alias) : List Alias :=
  ((occurrences aliases).filter fun o ↦ o.IsAdmitted).map (·.definition)

theorem admitted_append_singleton (aliases : List Alias) (a : Alias) :
    admitted (aliases ++ [a]) =
      admitted aliases ++ if Occurrence.IsAdmitted ⟨aliases, a⟩ then [a] else [] := by
  rw [admitted, occurrences_append_singleton, List.filter_append, List.map_append, admitted]
  congr 1
  by_cases h : Occurrence.IsAdmitted ⟨aliases, a⟩
  · simp [h]
  · simp [h]

/-- A phrase that is taken at all is the phrase of an admitted alias: the first sound one that has
it. -/
theorem exists_mem_admitted_iff {aliases : List Alias} {a : Alias} :
    (∃ b ∈ admitted aliases, b.SamePhrase a) ↔ Occurrence.IsTaken ⟨aliases, a⟩ := by
  induction aliases using List.reverseRecOn with
  | nil => simp [admitted, occurrences, Occurrence.IsTaken]
  | append_singleton aliases c ih =>
    have hlast : Occurrence.IsTaken ⟨aliases ++ [c], a⟩ ↔
        Occurrence.IsTaken ⟨aliases, a⟩ ∨ c.IsSound ∧ c.SamePhrase a := by
      simp [Occurrence.IsTaken, or_and_right, exists_or]
    rw [hlast, admitted_append_singleton]
    by_cases hadmitted : Occurrence.IsAdmitted ⟨aliases, c⟩
    · rw [if_pos hadmitted]
      simp only [List.mem_append, List.mem_singleton, or_and_right, exists_or, exists_eq_left]
      exact or_congr ih ⟨fun h ↦ ⟨hadmitted.1, h⟩, fun h ↦ h.2⟩
    · rw [if_neg hadmitted, List.append_nil, ih]
      refine ⟨Or.inl, fun h ↦ h.elim id fun ⟨hsound, hsame⟩ ↦ ?_⟩
      -- a sound alias that is kept out repeats an earlier one, which has the same phrase
      have htaken : Occurrence.IsTaken ⟨aliases, c⟩ :=
        not_not.mp fun hfree ↦ hadmitted ⟨hsound, hfree⟩
      obtain ⟨b, hmem, hb, hbc⟩ := htaken
      exact ⟨b, hmem, hb, hbc.1.trans hsame.1, hbc.2.trans hsame.2⟩

/-! ## The invariant -/

/-- The entry holds what its alias comes to. -/
structure Entry.IsMade (entry : Entry) : Prop where
  id : entry.id = entry.definition.key
  pattern : Pattern.compile entry.definition.pattern = .ok entry.pattern
  keywords : entry.keywords = Keyword.keywordSet entry.pattern.literal

namespace Snapshot

/-- The snapshot agrees with the occurrences in a list of aliases. -/
structure Records (aliases : List Alias) (snapshot : Snapshot) : Prop where
  indexed : Indexed snapshot
  definitions : snapshot.entries.map (·.definition) = admitted aliases
  made : ∀ entry ∈ snapshot.entries, entry.IsMade
  listed : ∀ layer, snapshot.byLayer.get? layer ≠ some []
  issues : snapshot.issues = (occurrences aliases).flatMap Occurrence.reported

variable {aliases : List Alias} {snapshot : Snapshot}

theorem records_empty (version : UInt64) : Records [] (empty version) where
  indexed := indexed_empty version
  definitions := rfl
  made := fun _ h ↦ absurd h List.not_mem_nil
  listed := fun _ h ↦ nomatch h
  issues := rfl

theorem holds_iff {a : Alias} :
    snapshot.holds a = true ↔ ∃ b ∈ snapshot.entries.map (·.definition), b.SamePhrase a := by
  simp [holds, Alias.SamePhrase]

/-- The test for repetitions looks at the entries, and finds what it would find among all earlier
aliases. -/
theorem Records.holds_iff (h : Records aliases snapshot) (a : Alias) :
    snapshot.holds a = true ↔ Occurrence.IsTaken ⟨aliases, a⟩ := by
  rw [Snapshot.holds_iff, h.definitions, exists_mem_admitted_iff]

theorem isMade_of_check {a : Alias} {pattern : Pattern} (h : a.check.1 = some pattern)
    (position : Nat) :
    Entry.IsMade ⟨a.key, a, pattern, Keyword.keywordSet pattern.literal, position⟩ where
  id := rfl
  pattern := (Alias.check_eq_some_iff.mp h).1
  keywords := by with_reducible rfl

theorem get?_byLayer_addEntry_ne {layer : String} (h : snapshot.byLayer.get? layer ≠ some [])
    (a : Alias) (pattern : Pattern) :
    (snapshot.addEntry a pattern).byLayer.get? layer ≠ some [] := by
  by_cases hlayer : layer = a.layer
  · subst hlayer
    rw [addEntry, NameMap.get?_insert_self]
    simp
  · rw [addEntry, NameMap.get?_insert_of_ne _ hlayer]
    exact h

theorem Records.add (h : Records aliases snapshot) (a : Alias) :
    Records (aliases ++ [a]) (snapshot.add a) := by
  have hindexed : Indexed (snapshot.add a) := h.indexed.add a
  have hissues : (occurrences (aliases ++ [a])).flatMap Occurrence.reported =
      snapshot.issues ++ Occurrence.reported ⟨aliases, a⟩ := by
    rw [occurrences_append_singleton, List.flatMap_append, ← h.issues]
    simp
  rcases add_cases snapshot a with
    ⟨hcheck, hadd⟩ | ⟨pattern, hcheck, hholds, hadd⟩ | ⟨pattern, hcheck, hholds, hadd⟩
  · -- a fault
    have hsound : ¬a.IsSound := by simp [Alias.IsSound, hcheck]
    rw [hadd] at hindexed ⊢
    refine ⟨hindexed, ?_, h.made, h.listed, ?_⟩
    · rw [admitted_append_singleton, if_neg fun hadmitted ↦ hsound hadmitted.1, List.append_nil]
      exact h.definitions
    · rw [hissues, Occurrence.reported, if_neg fun hboth ↦ hsound hboth.1, List.append_nil]
  · -- a repetition
    have hsound : a.IsSound := by simp [Alias.IsSound, hcheck]
    have htaken : Occurrence.IsTaken ⟨aliases, a⟩ := (h.holds_iff a).mp hholds
    rw [hadd] at hindexed ⊢
    refine ⟨hindexed, ?_, h.made, h.listed, ?_⟩
    · rw [admitted_append_singleton, if_neg fun hadmitted ↦ hadmitted.2 htaken, List.append_nil]
      exact h.definitions
    · rw [hissues, Occurrence.reported, if_pos ⟨hsound, htaken⟩, List.append_assoc]
  · -- an entry
    have hsound : a.IsSound := by simp [Alias.IsSound, hcheck]
    have hfree : ¬Occurrence.IsTaken ⟨aliases, a⟩ := by
      rw [← h.holds_iff a, hholds]
      exact Bool.false_ne_true
    rw [hadd] at hindexed ⊢
    refine ⟨hindexed, ?_, ?_, ?_, ?_⟩
    · rw [admitted_append_singleton, if_pos ⟨hsound, hfree⟩, ← h.definitions, addEntry,
        List.map_append]
      rfl
    · intro entry hentry
      rcases List.mem_append.mp hentry with hold | hnew
      · exact h.made entry hold
      · rw [List.mem_singleton.mp hnew]
        exact isMade_of_check hcheck _
    · intro layer
      exact get?_byLayer_addEntry_ne (h.listed layer) a pattern
    · rw [hissues, Occurrence.reported, if_neg fun hboth ↦ hfree hboth.2, List.append_nil, addEntry]

theorem records_build (version : UInt64) (aliases : List Alias) :
    Records aliases (build version aliases) := by
  induction aliases using List.reverseRecOn with
  | nil => exact records_empty version
  | append_singleton aliases a ih =>
    rw [build_append]
    exact ih.add a

/-! ## What the invariant says -/

theorem Indexed.getElem?_iff (h : Indexed snapshot) {i : Nat} {entry : Entry} :
    snapshot.entries[i]? = some entry ↔ entry ∈ snapshot.entries ∧ entry.position = i := by
  constructor
  · intro hi
    have hmap : (snapshot.entries.map (·.position))[i]? = some entry.position := by
      rw [List.getElem?_map, hi, Option.map_some]
    rw [h.positions] at hmap
    exact ⟨List.mem_of_getElem? hi, (List.getElem?_eq_some_iff.mp hmap).2.symm.trans (by simp)⟩
  · rintro ⟨hmem, rfl⟩
    exact h.getElem?_position hmem

theorem Indexed.pairwise_positionsOf (h : Indexed snapshot) (layer : String) :
    (snapshot.positionsOf layer).Pairwise (· < ·) := by
  rw [h.index]
  exact List.pairwise_map.mpr (h.ascending.filter _)

theorem Indexed.mem_positionsOf_iff (h : Indexed snapshot) {layer : String} {i : Nat} :
    i ∈ snapshot.positionsOf layer ↔
      ∃ entry, snapshot.entries[i]? = some entry ∧ entry.definition.layer = layer := by
  simp only [h.index, List.mem_map, List.mem_filter, beq_iff_eq, h.getElem?_iff]
  exact exists_congr fun entry ↦ and_right_comm

theorem get?_byLayer_eq_some_iff {layer : String} {positions : List Nat}
    (h : snapshot.byLayer.get? layer ≠ some []) :
    snapshot.byLayer.get? layer = some positions ↔
      positions ≠ [] ∧ positions = snapshot.positionsOf layer := by
  rw [positionsOf]
  cases hget : snapshot.byLayer.get? layer with
  | none => simp
  | some found =>
    have hne : found ≠ [] := fun hnil ↦ h (hnil ▸ hget)
    rw [Option.getD_some, Option.some_inj]
    exact ⟨fun heq ↦ ⟨heq ▸ hne, heq.symm⟩, fun hboth ↦ hboth.2.symm⟩

/-- The positions of a layer, said without the index. -/
theorem Records.get?_byLayer_iff (h : Records aliases snapshot) {layer : String}
    {positions : List Nat} :
    snapshot.byLayer.get? layer = some positions ↔
      positions ≠ [] ∧ positions.Pairwise (· < ·) ∧
        ∀ i, i ∈ positions ↔
          ∃ entry, snapshot.entries[i]? = some entry ∧ entry.definition.layer = layer := by
  rw [get?_byLayer_eq_some_iff (h.listed layer)]
  refine and_congr_right fun _ ↦ ?_
  constructor
  · rintro rfl
    exact ⟨h.indexed.pairwise_positionsOf layer, fun i ↦ h.indexed.mem_positionsOf_iff⟩
  · rintro ⟨hascending, hmem⟩
    -- an ascending list is determined by its members
    refine hascending.eq_of_mem_iff (h.indexed.pairwise_positionsOf layer) fun i ↦ ?_
    rw [hmem, h.indexed.mem_positionsOf_iff]

theorem Records.errors_eq_nil_iff (h : Records aliases snapshot) :
    snapshot.errors = [] ↔ snapshot.entries.length = aliases.length := by
  have hlength : snapshot.entries.length =
      ((occurrences aliases).filter fun o ↦ o.IsAdmitted).length := by
    rw [← List.length_map, h.definitions, admitted, List.length_map]
  have hall : aliases.length = (occurrences aliases).length := by
    conv_lhs => rw [← map_definition_occurrences aliases, List.length_map]
  rw [hlength, hall, List.length_filter_eq_length_iff, errors, List.filter_eq_nil_iff, h.issues]
  constructor
  · intro hnone o ho
    refine decide_eq_true (not_not.mp fun hkept ↦ ?_)
    obtain ⟨issue, hissue, herror⟩ := Occurrence.not_isAdmitted_iff.mp hkept
    exact hnone issue (List.mem_flatMap.mpr ⟨o, ho, hissue⟩) herror
  · intro hevery issue hissue herror
    obtain ⟨o, ho, hreported⟩ := List.mem_flatMap.mp hissue
    exact Occurrence.not_isAdmitted_iff.mpr ⟨issue, hreported, herror⟩
      (of_decide_eq_true (hevery o ho))

/-- **Every alias is accounted for.** The entries of a snapshot are the sound aliases whose phrase
is not taken, in their order. Each knows its place and holds what its alias comes to, and each layer
lists the places of its entries. What is reported is reported alias by alias, under its key, and
includes a fault exactly for those that have no entry. So a strict build succeeds if there are as
many entries as aliases, and else gives the faults of the snapshot. -/
theorem build_accounts (version : UInt64) (aliases : List Alias) :
    let snapshot := build version aliases
    snapshot.entries.map (·.definition) =
      ((occurrences aliases).filter fun o ↦ o.IsAdmitted).map (·.definition) ∧
    (∀ (i : Nat) (entry : Entry), snapshot.entries[i]? = some entry →
      entry.position = i ∧ entry.IsMade) ∧
    (∀ layer positions, snapshot.byLayer.get? layer = some positions ↔
      positions ≠ [] ∧ positions.Pairwise (· < ·) ∧
        ∀ i, i ∈ positions ↔
          ∃ entry, snapshot.entries[i]? = some entry ∧ entry.definition.layer = layer) ∧
    snapshot.issues = (occurrences aliases).flatMap Occurrence.reported ∧
    (∀ o : Occurrence, (∀ issue ∈ o.reported, issue.aliasId = o.definition.key) ∧
      (¬o.IsAdmitted ↔ ∃ issue ∈ o.reported, issue.isError = true)) ∧
    buildStrict version aliases =
      if snapshot.entries.length = aliases.length then .ok snapshot
      else .error (snapshot.issues.filter Issue.isError) := by
  intro snapshot
  have hrecords : Records aliases snapshot := records_build version aliases
  refine ⟨hrecords.definitions, ?_, ?_, hrecords.issues, ?_, ?_⟩
  · intro i entry hentry
    obtain ⟨hmem, hposition⟩ := hrecords.indexed.getElem?_iff.mp hentry
    exact ⟨hposition, hrecords.made entry hmem⟩
  · intro layer positions
    exact hrecords.get?_byLayer_iff
  · intro o
    exact ⟨fun issue hissue ↦ Occurrence.aliasId_of_mem_reported hissue,
      Occurrence.not_isAdmitted_iff⟩
  · simp only [buildStrict, List.isEmpty_iff, ← hrecords.errors_eq_nil_iff, errors, snapshot]

end Snapshot

end Phrasebook
