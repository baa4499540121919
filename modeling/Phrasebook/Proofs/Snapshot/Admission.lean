import Phrasebook.Proofs.Json.Texts
import Phrasebook.Proofs.Snapshot.Index
import Phrasebook.Proofs.Substitution.References

/-!
# What an entry has passed

An alias gets an entry only after a check that found no fault in it. So whoever holds an entry may
rely on the check, however long ago that was: the pattern of the entry is the phrase of its alias,
and the actions refer to no placeholder that the phrase does not have.
-/

namespace Phrasebook

/-! ## The names that a value refers to -/

theorem Substitution.mem_namesWithin_iff {name : String} {value : Json} :
    name ∈ namesWithin value ↔ ∃ text, Json.HasText text value ∧ Refers text name := by
  rw [namesWithin, NameSet.mem_ofList, List.mem_flatMap]
  exact exists_congr fun text ↦ and_congr Json.mem_textsWithin_iff mem_names_iff

/-! ## The check -/

namespace Alias

/-- A check that gives a pattern has read the phrase and found no fault. -/
theorem checkWith_eq_some_iff {fits : Expression → Bool} {a : Alias} {pattern : Pattern} :
    (a.checkWith fits).1 = some pattern ↔ Pattern.compileWith fits a.pattern = .ok pattern ∧
      ∀ cause ∈ a.causes pattern, cause.severity ≠ .error := by
  have hfaults : ∀ found : Pattern,
      ((a.causes found).map (Issue.mk a.key)).any Issue.isError = true ↔
        ∃ cause ∈ a.causes found, cause.severity = .error := by
    intro found
    rw [List.any_map, List.any_eq_true]
    exact exists_congr fun cause ↦ and_congr_right fun _ ↦ decide_eq_true_iff
  rw [checkWith]
  cases hcompile : Pattern.compileWith fits a.pattern with
  | error error =>
    constructor
    · intro h
      cases h
    · rintro ⟨h, -⟩
      cases h
  | ok found =>
    simp only [Except.ok.injEq]
    constructor
    · intro h
      by_cases hany : ((a.causes found).map (Issue.mk a.key)).any Issue.isError = true
      · rw [if_pos hany] at h
        cases h
      · rw [if_neg hany] at h
        obtain rfl := Option.some_inj.mp h
        rw [hfaults] at hany
        exact ⟨rfl, fun cause hcause herror ↦ hany ⟨cause, hcause, herror⟩⟩
    · rintro ⟨rfl, hnone⟩
      rw [if_neg]
      rw [hfaults]
      rintro ⟨cause, hcause, herror⟩
      exact hnone cause hcause herror

theorem check_eq_some_iff {a : Alias} {pattern : Pattern} :
    a.check.1 = some pattern ↔ Pattern.compile a.pattern = .ok pattern ∧
      ∀ cause ∈ a.causes pattern, cause.severity ≠ .error :=
  checkWith_eq_some_iff

/-- Each name that an action refers to is a placeholder of the phrase, or the check reports it. -/
theorem undeclaredPlaceholder_mem_causes {a : Alias} {pattern : Pattern} {action : Action}
    (haction : action ∈ a.actions) {name : String}
    (hname : name ∈ Substitution.namesWithin (.obj action.params.entries))
    (hundeclared : name ∉ pattern.placeholders) :
    Cause.undeclaredPlaceholder action.tool name a.pattern ∈ a.causes pattern := by
  have hnames : name ∈ (Substitution.namesWithin (.obj action.params.entries)).toList.filter
      fun name ↦ !pattern.placeholders.contains name := by
    refine List.mem_filter.mpr ⟨hname, ?_⟩
    simpa using hundeclared
  have hcause : Cause.undeclaredPlaceholder action.tool name a.pattern ∈
      action.causes a pattern.placeholders :=
    List.mem_append_left _ (List.mem_map_of_mem hnames)
  exact List.mem_append_left _ (List.mem_flatMap.mpr ⟨action, haction, hcause⟩)

/-- What passes the check refers to placeholders of its phrase only. -/
theorem mem_placeholders_of_check {a : Alias} {pattern : Pattern} (h : a.check.1 = some pattern)
    {action : Action} (haction : action ∈ a.actions) {text name : String}
    (htext : Json.HasText text (.obj action.params.entries))
    (hrefers : Substitution.Refers text name) : name ∈ pattern.placeholders := by
  by_contra hundeclared
  have hname := Substitution.mem_namesWithin_iff.mpr ⟨text, htext, hrefers⟩
  have hcause := undeclaredPlaceholder_mem_causes haction hname hundeclared
  exact (check_eq_some_iff.mp h).2 _ hcause rfl

end Alias

/-! ## Entries -/

namespace Snapshot

theorem check_of_entryFor_eq_some {snapshot : Snapshot} {a : Alias} {entry : Entry}
    (h : snapshot.entryFor a = some entry) :
    entry.definition.check.1 = some entry.pattern := by
  rw [entryFor] at h
  split at h
  · rename_i pattern hcheck
    split at h
    · cases h
    · rw [← Option.some_inj.mp h]
      exact hcheck
  · cases h

/-- **Every entry has passed the check.** -/
theorem check_of_mem_build {version : UInt64} {aliases : List Alias} {entry : Entry}
    (h : entry ∈ (build version aliases).entries) :
    entry.definition.check.1 = some entry.pattern := by
  induction aliases using List.reverseRecOn with
  | nil => exact absurd h List.not_mem_nil
  | append_singleton aliases a ih =>
    rw [build_append, entries_add, List.mem_append, Option.mem_toList] at h
    rcases h with hold | hnew
    · exact ih hold
    · exact check_of_entryFor_eq_some hnew

end Snapshot

end Phrasebook
