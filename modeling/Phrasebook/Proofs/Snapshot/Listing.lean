import Phrasebook.Proofs.Snapshot.Accounting
import Phrasebook.Store

/-!
# Two ways to list what a scope sees

What takes part in answering a request can be listed from two sides. A snapshot finds the entries
through the positions under two layers, sorts them and looks the entries up. A store is simply
loaded and filtered. The first list must be what a look at every entry would give, and it may fall
short of the second in one respect: the aliases that were kept out of the snapshot are not there.

Both filters ask the same of an alias, but of different lists: the aliases of the store may hold one
alias twice, where the snapshot has one entry. So the comparison is made on occurrences, and the
filter commutes with leaving out those that are not admitted.
-/

namespace Phrasebook.Snapshot

variable {aliases : List Alias} {snapshot : Snapshot}

theorem filter_admitted_eq (aliases : List Alias) (p : Alias → Bool) :
    (admitted aliases).filter p =
      (((occurrences aliases).filter fun o ↦ p o.definition).filter
        fun o ↦ o.IsAdmitted).map (·.definition) := by
  rw [admitted, List.filter_map, List.filter_comm]
  rfl

theorem Records.map_definition_eligible (h : Records aliases snapshot) (scope : Scope) :
    (snapshot.eligible scope).map (·.definition) =
      (admitted aliases).filter (·.isEligible scope) := by
  rw [h.indexed.eligible_eq, ← h.definitions, List.filter_map]
  rfl

theorem eligibleAliases_eq (aliases : List Alias) (scope : Scope) :
    eligibleAliases aliases scope =
      ((occurrences aliases).filter fun o ↦ o.definition.isEligible scope).map (·.definition) := by
  conv_lhs => rw [← map_definition_occurrences aliases, eligibleAliases, List.filter_map]
  rfl

/-- **The layer index, a full scan and the store agree.** For every scope the index finds the
entries that pass the test of eligibility, each once and in order of definition. A store that holds
the same aliases lists those of them that pass the test, and leaving out the occurrences that are
not admitted gives the aliases of the entries found. -/
theorem eligible_build (version : UInt64) (aliases : List Alias) (scope : Scope) (loads : Nat) :
    let snapshot := build version aliases
    let store : Store := { aliases := aliases, loads := loads }
    let listed := (occurrences aliases).filter fun o ↦ o.definition.isEligible scope
    snapshot.eligible scope =
      (snapshot.entries.filter fun entry ↦ entry.definition.isEligible scope) ∧
    (snapshot.eligible scope).Pairwise (fun a b ↦ a.position < b.position) ∧
    store.load.1.map (eligibleAliases · scope) = .ok (listed.map (·.definition)) ∧
    (snapshot.eligible scope).map (·.definition) =
      (listed.filter fun o ↦ o.IsAdmitted).map (·.definition) := by
  intro snapshot store listed
  have hrecords : Records aliases snapshot := records_build version aliases
  have hscan := hrecords.indexed.eligible_eq scope
  refine ⟨hscan, ?_, ?_, ?_⟩
  · rw [hscan]
    exact hrecords.indexed.ascending.filter _
  · have hload : store.load.1 = .ok aliases := rfl
    rw [hload, Except.map, eligibleAliases_eq]
  · rw [hrecords.map_definition_eligible, filter_admitted_eq]

end Phrasebook.Snapshot
