import Mathlib.Data.List.Induction
import Phrasebook.Snapshot

/-!
# The layer index

A snapshot lists its entries twice: in the order in which they were defined, and by layer, as
positions in the first list. Both lists grow together while aliases are added. `Indexed` says how
they agree, and it is all that the search for the entries of a scope depends on.

## Positions as a range

That every entry knows its place is said of the list of all positions at once: it is the range of
numbers below the number of entries. An ascending order, the absence of repetitions and the way back
from a position to its entry are then facts about ranges.
-/

namespace Phrasebook.Snapshot

/-! ## What adding an alias comes to -/

/-- The three outcomes of checking one more alias: it has a fault, it repeats an entry, or it gets
an entry of its own. -/
theorem add_cases (snapshot : Snapshot) (a : Alias) :
    (a.check.1 = none ∧
      snapshot.add a = { snapshot with issues := snapshot.issues ++ a.check.2 }) ∨
    (∃ pattern, a.check.1 = some pattern ∧ snapshot.holds a = true ∧
      snapshot.add a = { snapshot with
        issues := snapshot.issues ++ a.check.2 ++
          [⟨a.key, .duplicatePattern a.layer a.pattern⟩] }) ∨
    ∃ pattern, a.check.1 = some pattern ∧ snapshot.holds a = false ∧
      snapshot.add a =
        addEntry { snapshot with issues := snapshot.issues ++ a.check.2 } a pattern := by
  rcases hcheck : a.check with ⟨pattern?, issues⟩
  -- the duplicate test looks at entries only, so it does not see the issues added before it
  have hholds : holds { snapshot with issues := snapshot.issues ++ issues } a =
    snapshot.holds a := rfl
  cases pattern? with
  | none => exact Or.inl ⟨rfl, by rw [add, hcheck]⟩
  | some pattern =>
    cases h : snapshot.holds a with
    | true =>
      refine Or.inr (Or.inl ⟨pattern, rfl, rfl, ?_⟩)
      simp only [add, hcheck, hholds, h, if_true]
    | false =>
      refine Or.inr (Or.inr ⟨pattern, rfl, rfl, ?_⟩)
      simp only [add, hcheck, hholds, h, Bool.false_eq_true, if_false]

/-- The entry that one more alias gets, unless it has a fault or repeats an entry. -/
def entryFor (snapshot : Snapshot) (a : Alias) : Option Entry :=
  match a.check.1 with
  | some pattern =>
    if snapshot.holds a then none
    else some ⟨a.key, a, pattern, Keyword.keywordSet pattern.literal, snapshot.entries.length⟩
  | none => none

theorem definition_of_entryFor_eq_some {snapshot : Snapshot} {a : Alias} {entry : Entry}
    (h : snapshot.entryFor a = some entry) : entry.definition = a := by
  rw [entryFor] at h
  split at h
  · split at h
    · cases h
    · rw [← Option.some_inj.mp h]
  · cases h

theorem entries_add (snapshot : Snapshot) (a : Alias) :
    (snapshot.add a).entries = snapshot.entries ++ (snapshot.entryFor a).toList := by
  rcases add_cases snapshot a with
    ⟨hcheck, hadd⟩ | ⟨pattern, hcheck, hholds, hadd⟩ | ⟨pattern, hcheck, hholds, hadd⟩
  · rw [hadd, entryFor, hcheck, Option.toList_none, List.append_nil]
  · simp only [hadd, entryFor, hcheck, hholds, if_true, Option.toList_none, List.append_nil]
  · simp only [hadd, entryFor, hcheck, hholds, Bool.false_eq_true, if_false, Option.toList_some,
      addEntry]

theorem build_append (version : UInt64) (aliases : List Alias) (a : Alias) :
    build version (aliases ++ [a]) = (build version aliases).add a := by
  rw [build, build, List.foldl_append, List.foldl_cons, List.foldl_nil]

@[simp] theorem version_add (snapshot : Snapshot) (a : Alias) :
    (snapshot.add a).version = snapshot.version := by
  rcases add_cases snapshot a with ⟨-, h⟩ | ⟨pattern, -, -, h⟩ | ⟨pattern, -, -, h⟩
  · rw [h]
  · rw [h]
  · rw [h, addEntry]

@[simp] theorem version_build (version : UInt64) (aliases : List Alias) :
    (build version aliases).version = version := by
  induction aliases using List.reverseRecOn with
  | nil => rfl
  | append_singleton aliases a ih => rw [build_append, version_add, ih]

/-! ## The invariant -/

/-- Entries are numbered in order, and the index lists under each layer the positions of its
entries. -/
structure Indexed (snapshot : Snapshot) : Prop where
  positions : snapshot.entries.map (·.position) = List.range snapshot.entries.length
  index : ∀ layer, snapshot.positionsOf layer =
    (snapshot.entries.filter fun entry ↦ entry.definition.layer == layer).map (·.position)

theorem indexed_empty (version : UInt64) : Indexed (empty version) := ⟨rfl, fun _ ↦ rfl⟩

theorem positionsOf_addEntry (snapshot : Snapshot) (a : Alias) (pattern : Pattern)
    (layer : String) :
    (snapshot.addEntry a pattern).positionsOf layer =
      snapshot.positionsOf layer ++
        if a.layer == layer then [snapshot.entries.length] else [] := by
  by_cases h : a.layer = layer
  · subst h
    rw [if_pos (beq_self_eq_true _), positionsOf, addEntry, NameMap.get?_insert_self,
      Option.getD_some, positionsOf]
  · rw [if_neg (by simpa using h), List.append_nil, positionsOf, addEntry,
      NameMap.get?_insert_of_ne _ (Ne.symm h), positionsOf]

theorem Indexed.addEntry {snapshot : Snapshot} (h : Indexed snapshot) (a : Alias)
    (pattern : Pattern) : Indexed (snapshot.addEntry a pattern) := by
  refine ⟨?_, fun layer ↦ ?_⟩
  · rw [Snapshot.addEntry, List.map_append, h.positions, List.length_append, List.length_singleton,
      List.range_succ]
    rfl
  · rw [positionsOf_addEntry, h.index layer, Snapshot.addEntry, List.filter_append,
      List.map_append, List.filter_cons, List.filter_nil]
    by_cases hlayer : (a.layer == layer) = true
    · rw [if_pos hlayer, if_pos hlayer]
      rfl
    · rw [if_neg hlayer, if_neg hlayer]
      rfl

theorem Indexed.add {snapshot : Snapshot} (h : Indexed snapshot) (a : Alias) :
    Indexed (snapshot.add a) := by
  have hchecked : ∀ issues, Indexed { snapshot with issues := issues } := fun _ ↦
    ⟨h.positions, h.index⟩
  rcases add_cases snapshot a with ⟨-, hadd⟩ | ⟨pattern, -, -, hadd⟩ | ⟨pattern, -, -, hadd⟩
  · rw [hadd]
    exact hchecked _
  · rw [hadd]
    exact hchecked _
  · rw [hadd]
    exact (hchecked _).addEntry a pattern

/-- **Every snapshot that was built is indexed.** -/
theorem indexed_build (version : UInt64) (aliases : List Alias) :
    Indexed (build version aliases) := by
  induction aliases using List.reverseRecOn with
  | nil => exact indexed_empty version
  | append_singleton aliases a ih => rw [build_append]; exact ih.add a

/-! ## Entries found through the index -/

/-- The entries that a scope sees are those of the public layer and those of its own. -/
theorem filter_seesLayer_perm (entries : List Entry) {scope : Scope}
    (hown : scope.layer ≠ publicLayer) :
    ((entries.filter fun entry ↦ entry.definition.layer == publicLayer) ++
        entries.filter fun entry ↦ entry.definition.layer == scope.layer).Perm
      (entries.filter fun entry ↦ scope.seesLayer entry.definition.layer) := by
  have hpublic : (fun entry : Entry ↦ entry.definition.layer == publicLayer &&
      scope.seesLayer entry.definition.layer) =
      fun entry ↦ entry.definition.layer == publicLayer := by
    funext entry
    rw [Scope.seesLayer]
    cases entry.definition.layer == publicLayer <;> rfl
  -- what is left is the own layer because that one is not the public one
  have hrest : (fun entry : Entry ↦ !(entry.definition.layer == publicLayer) &&
      scope.seesLayer entry.definition.layer) =
      fun entry ↦ entry.definition.layer == scope.layer := by
    funext entry
    rw [Scope.seesLayer]
    by_cases hlayer : entry.definition.layer = scope.layer
    · rw [hlayer, beq_self_eq_true, Bool.or_true, Bool.and_true, Bool.not_eq_true',
        beq_eq_false_iff_ne]
      exact hown
    · rw [beq_eq_false_iff_ne.mpr hlayer, Bool.or_false]
      cases entry.definition.layer == publicLayer <;> rfl
  have hsplit := List.filter_append_perm (fun entry : Entry ↦ entry.definition.layer == publicLayer)
    (entries.filter fun entry ↦ scope.seesLayer entry.definition.layer)
  rwa [List.filter_filter, List.filter_filter, hpublic, hrest] at hsplit

theorem mergeSort_eq_of_perm {numbers sorted : List Nat} (hperm : numbers.Perm sorted)
    (hsorted : sorted.Pairwise (· < ·)) : (numbers.mergeSort fun a b ↦ a ≤ b) = sorted := by
  have hmerged : (numbers.mergeSort fun a b ↦ a ≤ b).Pairwise fun a b ↦ decide (a ≤ b) = true :=
    List.pairwise_mergeSort (fun a b c ↦ by simpa using Nat.le_trans)
      (fun a b ↦ by simpa using Nat.le_total a b) numbers
  simp only [decide_eq_true_eq] at hmerged
  exact ((List.mergeSort_perm numbers _).trans hperm).eq_of_pairwise
    (fun a b _ _ ↦ Nat.le_antisymm) hmerged (hsorted.imp Nat.le_of_lt)

namespace Indexed

variable {snapshot : Snapshot}

theorem ascending (h : Indexed snapshot) :
    snapshot.entries.Pairwise fun a b ↦ a.position < b.position := by
  rw [← List.pairwise_map, h.positions]
  exact List.pairwise_lt_range

/-- The way back from a position. -/
theorem getElem?_position (h : Indexed snapshot) {entry : Entry} (hmem : entry ∈ snapshot.entries) :
    snapshot.entries[entry.position]? = some entry := by
  obtain ⟨i, hi, rfl⟩ := List.getElem_of_mem hmem
  have hposition : (snapshot.entries.map (·.position))[i]? = some i := by
    rw [h.positions, List.getElem?_range hi]
  rw [List.getElem?_map, List.getElem?_eq_getElem hi, Option.map_some, Option.some_inj] at hposition
  rw [hposition, List.getElem?_eq_getElem hi]

/-- The positions that a scope sees come from two lists of the index, so sorting has to restore the
order of definition. -/
theorem visiblePositions_eq (h : Indexed snapshot) (scope : Scope) :
    snapshot.visiblePositions scope =
      (snapshot.entries.filter fun entry ↦ scope.seesLayer entry.definition.layer).map
        (·.position) := by
  rw [visiblePositions]
  -- the right-hand side is sorted already, so it is enough to compare the positions as bags
  refine mergeSort_eq_of_perm ?_ (List.pairwise_map.mpr (h.ascending.filter _))
  by_cases hown : scope.layer = publicLayer
  · have hsees : (fun entry : Entry ↦ scope.seesLayer entry.definition.layer) =
        fun entry ↦ entry.definition.layer == publicLayer := by
      funext entry
      rw [Scope.seesLayer, hown, Bool.or_self]
    rw [if_pos hown, List.append_nil, h.index, hsees]
  · rw [if_neg hown, h.index, h.index, ← List.map_append]
    exact (filter_seesLayer_perm snapshot.entries hown).map _

theorem filterMap_position (h : Indexed snapshot) {entries : List Entry}
    (hsub : ∀ entry ∈ entries, entry ∈ snapshot.entries) :
    (entries.map (·.position)).filterMap (snapshot.entries[·]?) = entries := by
  induction entries with
  | nil => rfl
  | cons entry rest ih =>
    have hentry := h.getElem?_position (hsub entry List.mem_cons_self)
    rw [List.map_cons, List.filterMap_cons_some hentry,
      ih fun other hother ↦ hsub other (List.mem_cons_of_mem entry hother)]

/-- **The index changes nothing.** -/
theorem eligible_eq (h : Indexed snapshot) (scope : Scope) :
    snapshot.eligible scope =
      snapshot.entries.filter fun entry ↦ entry.definition.isEligible scope := by
  rw [eligible, h.visiblePositions_eq,
    h.filterMap_position fun entry hentry ↦ (List.mem_filter.mp hentry).1, List.filter_filter]
  refine List.filter_congr fun entry _ ↦ ?_
  cases heligible : entry.definition.isEligible scope with
  | false => rfl
  | true => rw [Alias.seesLayer_of_isEligible heligible, Bool.and_self]

theorem mem_eligible_iff (h : Indexed snapshot) {scope : Scope} {entry : Entry} :
    entry ∈ snapshot.eligible scope ↔
      entry ∈ snapshot.entries ∧ entry.definition.isEligible scope = true := by
  rw [h.eligible_eq, List.mem_filter]

end Indexed

end Phrasebook.Snapshot
