import Phrasebook.Proofs.Routing.Placement

/-!
# Layer isolation

Aliases of other layers go through the same checks, the same test for repetitions and the same count
of positions as those that a caller sees. What they leave behind must not reach the caller.

The argument runs two snapshots side by side. `Alike` says that they hold the same entries in some
layers, up to places. An alias of another layer changes neither side of it, and an alias of these
layers changes both sides in the same way, since whether it repeats an entry depends on entries of
its own layer alone. So the snapshot of a list of aliases is alike to that of the aliases in these
layers, and routing cannot tell the two apart.
-/

namespace Phrasebook

namespace Snapshot

/-! ## Two snapshots side by side -/

/-- The entries of some layers. -/
def entriesIn (sees : String → Bool) (snapshot : Snapshot) : List Entry :=
  snapshot.entries.filter fun entry ↦ sees entry.definition.layer

/-- In some layers both snapshots hold the same entries in the same order, up to their places. -/
def Alike (sees : String → Bool) (first second : Snapshot) : Prop :=
  (first.entriesIn sees).map Entry.unplaced = (second.entriesIn sees).map Entry.unplaced

variable {sees : String → Bool} {first second : Snapshot} {a : Alias}

theorem holds_eq_any_entriesIn (h : sees a.layer = true) (snapshot : Snapshot) :
    snapshot.holds a = ((snapshot.entriesIn sees).map Entry.unplaced).any fun entry ↦
      entry.definition.layer == a.layer && entry.definition.pattern == a.pattern := by
  rw [entriesIn, List.any_map, List.any_filter, holds]
  congr 1
  funext entry
  by_cases hlayer : entry.definition.layer = a.layer
  · rw [hlayer, h, Bool.true_and]
    rw [Function.comp_apply, Entry.unplaced, hlayer]
  · have hne : (entry.definition.layer == a.layer) = false := beq_eq_false_iff_ne.mpr hlayer
    rw [Function.comp_apply, Entry.unplaced, hne, Bool.false_and, Bool.and_false]

theorem Alike.holds_eq (h : Alike sees first second) (hsees : sees a.layer = true) :
    first.holds a = second.holds a := by
  rw [holds_eq_any_entriesIn hsees, holds_eq_any_entriesIn hsees, h]

theorem entriesIn_add (snapshot : Snapshot) (a : Alias) :
    (snapshot.add a).entriesIn sees = snapshot.entriesIn sees ++
      if sees a.layer then (snapshot.entryFor a).toList else [] := by
  rw [entriesIn, entries_add, List.filter_append, entriesIn]
  congr 1
  cases hnew : snapshot.entryFor a with
  | none => rw [Option.toList_none, List.filter_nil, ite_self]
  | some entry =>
    rw [Option.toList_some, List.filter_cons, List.filter_nil,
      definition_of_entryFor_eq_some hnew]

/-- An alias of another layer leaves no trace. -/
theorem Alike.add_left (h : Alike sees first second) (hsees : sees a.layer = false) :
    Alike sees (first.add a) second := by
  rw [Alike, entriesIn_add, hsees, if_neg Bool.false_ne_true, List.append_nil]
  exact h

/-- An alias of these layers does the same to both. -/
theorem Alike.add (h : Alike sees first second) (hsees : sees a.layer = true) :
    Alike sees (first.add a) (second.add a) := by
  have hnew : (first.entryFor a).map Entry.unplaced = (second.entryFor a).map Entry.unplaced := by
    rw [entryFor, entryFor, h.holds_eq hsees]
    cases a.check.1 with
    | none => rfl
    | some pattern => cases second.holds a <;> rfl
  rw [Alike, entriesIn_add, entriesIn_add, if_pos hsees, if_pos hsees, List.map_append,
    List.map_append, ← Option.toList_map, ← Option.toList_map, hnew, h]

theorem alike_build_filter (version other : UInt64) (aliases : List Alias) :
    Alike sees (build version aliases) (build other (aliases.filter fun a ↦ sees a.layer)) := by
  -- from the end of the list, since the last alias is the one added last
  induction aliases using List.reverseRecOn with
  | nil => rfl
  | append_singleton aliases a ih =>
    rw [build_append, List.filter_append, List.filter_cons, List.filter_nil]
    by_cases hsees : sees a.layer = true
    · rw [if_pos hsees, build_append]
      exact ih.add hsees
    · rw [if_neg hsees, List.append_nil]
      exact ih.add_left (Bool.not_eq_true _ ▸ hsees)

/-! ## What a caller can tell -/

theorem filter_isEligible_eq (scope : Scope) (snapshot : Snapshot) :
    (snapshot.entries.filter fun entry ↦ entry.definition.isEligible scope).map Entry.unplaced =
      ((snapshot.entriesIn scope.seesLayer).map Entry.unplaced).filter fun entry ↦
        entry.definition.isEligible scope := by
  rw [entriesIn, List.filter_map, List.filter_filter]
  congr 1
  refine List.filter_congr fun entry _ ↦ ?_
  rw [Function.comp_apply, Entry.unplaced]
  cases heligible : entry.definition.isEligible scope with
  | false => rfl
  | true => rw [Alias.seesLayer_of_isEligible heligible, Bool.and_self]

/-- **Layer isolation.** Lists of aliases that agree in the public layer and in the layer of the
caller resolve every request of the caller alike, whatever else they hold and wherever it stands. -/
theorem resolve_build_isolated (scope : Scope) {aliases others : List Alias}
    (h : aliases.filter (fun a ↦ scope.seesLayer a.layer) =
      others.filter fun a ↦ scope.seesLayer a.layer)
    (version other : UInt64) (request : String) (limit : Nat) :
    (build version aliases).resolve request scope limit =
      (build other others).resolve request scope limit := by
  have halike : Alike scope.seesLayer (build version aliases) (build other others) := by
    -- both are alike to the snapshot of the aliases that they have in common
    have haliases : Alike scope.seesLayer (build version aliases) _ :=
      alike_build_filter version 0 aliases
    have hothers : Alike scope.seesLayer (build other others) _ :=
      alike_build_filter other 0 others
    rw [h] at haliases
    exact haliases.trans hothers.symm
  rw [Routing.resolve_build, Routing.resolve_build]
  refine Routing.route_eq_of_map_unplaced_eq ((indexed_build version aliases).ascending.filter _)
    ((indexed_build other others).ascending.filter _) ?_ request limit
  rw [filter_isEligible_eq, filter_isEligible_eq, halike]

/-- Another layer may register the same phrase first, with a priority that goes before all others,
and a phrase that cannot be read. -/
theorem resolve_build_isolated_of_rival :
    [{ pattern := "my tasks", layer := "rival", priority := -1 }, { pattern := "my {thing}" },
        { pattern := "\x7b", layer := "rival" }, { pattern := "my tasks", layer := "own" }].filter
        (fun a : Alias ↦ Scope.seesLayer { layer := "own" } a.layer) =
      [{ pattern := "my {thing}" }, { pattern := "my tasks", layer := "own" }].filter
        (fun a : Alias ↦ Scope.seesLayer { layer := "own" } a.layer) ∧
    (build 7 [{ pattern := "my tasks", layer := "rival", priority := -1 },
        { pattern := "my {thing}" }, { pattern := "\x7b", layer := "rival" },
        { pattern := "my tasks", layer := "own" }]).resolve "my tasks" { layer := "own" } 3 =
      (build 1 [{ pattern := "my {thing}" }, { pattern := "my tasks", layer := "own" }]).resolve
        "my tasks" { layer := "own" } 3 :=
  ⟨by rfl, resolve_build_isolated { layer := "own" } (by rfl) 7 1 "my tasks" 3⟩

end Snapshot

end Phrasebook
