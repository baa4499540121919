import Phrasebook.Proofs.Pattern.Captures
import Phrasebook.Proofs.Routing.Outcome
import Phrasebook.Proofs.Snapshot.Admission

/-!
# Plans are filled

A reference to a name that nothing was captured for is replaced by nothing, and the tool is called
with a blank. The check of an alias rules this out long before a request is made. Four parts have to
agree on what a reference is: the check, which looks for references in the parameters of the
actions; the template, which says what the placeholders are; the match, which captures something for
each of them; and the substitution, which puts it in.

That nothing is missing is said twice. `IsFilledBy` says that there is something to put in for every
reference. And the plan does not change when there are more captures, so nothing in it stands for a
capture that is not there.
-/

namespace Phrasebook

/-- There is something to put in for every reference in the parameters of the actions. -/
def Alias.IsFilledBy (a : Alias) (captures : Captures) : Prop :=
  ∀ action ∈ a.actions, ∀ text, Json.HasText text (.obj action.params.entries) →
    ∀ name, Substitution.Refers text name →
      ∃ value, captures.get? name = some value ∧ value ≠ ""

/-- More captures change nothing in a text that has all it refers to. -/
theorem Substitution.substitute_of_extends {captures more : Captures}
    (hmore : ∀ name value, captures.get? name = some value → more.get? name = some value)
    {text : String} (h : ∀ name, Refers text name → ∃ value, captures.get? name = some value) :
    substitute more text = substitute captures text := by
  refine substitute_congr fun name hrefers ↦ ?_
  obtain ⟨value, hvalue⟩ := h name hrefers
  rw [hvalue, hmore name value hvalue]

namespace Alias

theorem IsFilledBy.plan_eq {a : Alias} {captures more : Captures} (h : a.IsFilledBy captures)
    (hmore : ∀ name value, captures.get? name = some value → more.get? name = some value) :
    a.plan more = a.plan captures := by
  have hfill : ∀ action ∈ a.actions, action.fill more = action.fill captures := by
    intro action haction
    have hvalue : ∀ entry ∈ action.params.entries,
        Substitution.substituteWithin more entry.2 =
          Substitution.substituteWithin captures entry.2 := by
      intro entry hentry
      refine Json.mapTexts_congr fun text htext ↦ ?_
      refine Substitution.substitute_of_extends hmore fun name hrefers ↦ ?_
      obtain ⟨value, hvalue, -⟩ :=
        h action haction text (Json.HasText.field hentry htext) name hrefers
      exact ⟨value, hvalue⟩
    have hparams : action.params.mapValues (Substitution.substituteWithin more) =
        action.params.mapValues (Substitution.substituteWithin captures) := by
      refine NameMap.ext (List.map_congr_left fun entry hentry ↦ ?_)
      rw [hvalue entry hentry]
    rw [Action.fill, Action.fill, hparams]
  rw [plan, plan, List.map_congr_left hfill]

/-- A match fills what has passed the check. -/
theorem isFilledBy_of_check {a : Alias} {pattern : Pattern} (h : a.check.1 = some pattern)
    {text : String} {captures : Captures} (hcaptures : pattern.captures? text = some captures) :
    a.IsFilledBy captures := fun _ haction _ htext _ hrefers ↦
  Pattern.exists_capture hcaptures (mem_placeholders_of_check h haction htext hrefers)

end Alias

namespace Routing

/-- Whatever the stage, a match is that of an entry. -/
theorem exists_found_of_route_eq_matched {entries : List Entry} {request : String} {limit : Nat}
    {id : String} {kind : MatchKind} {captures : Captures} {plan : Plan}
    (h : route entries request limit = .matched id kind captures plan) :
    ∃ entry ∈ entries, id = entry.id ∧ plan = entry.definition.plan captures ∧
      ∃ text, entry.pattern.captures? text = some captures := by
  rcases route_cases entries request limit with
    ⟨-, found, hmem, hcaptures, hroute⟩ | ⟨-, found, hmem, hcaptures, hroute⟩ |
    ⟨-, candidates, -, hroute⟩ | ⟨-, -, -, hroute⟩
  · obtain ⟨rfl, rfl, rfl, rfl⟩ := Resolution.matched.inj (hroute.symm.trans h)
    exact ⟨found.entry, hmem, rfl, rfl, _, hcaptures⟩
  · obtain ⟨rfl, rfl, rfl, rfl⟩ := Resolution.matched.inj (hroute.symm.trans h)
    exact ⟨found.entry, hmem, rfl, rfl, _, hcaptures⟩
  · cases hroute.symm.trans h
  · cases hroute.symm.trans h

/-- **Nothing is missing in a plan.** The captures of a match have something for every reference in
the parameters of the matched alias, and more captures would not change its plan. -/
theorem resolve_build_filled {version : UInt64} {aliases : List Alias} {scope : Scope}
    {request : String} {limit : Nat} {id : String} {kind : MatchKind} {captures : Captures}
    {plan : Plan}
    (h : (Snapshot.build version aliases).resolve request scope limit =
      .matched id kind captures plan) :
    ∃ entry ∈ (Snapshot.build version aliases).entries,
      id = entry.id ∧ plan = entry.definition.plan captures ∧
      entry.definition.IsFilledBy captures ∧
      ∀ more : Captures,
        (∀ name value, captures.get? name = some value → more.get? name = some value) →
          entry.definition.plan more = plan := by
  rw [resolve_build] at h
  obtain ⟨entry, hmem, hid, hplan, text, hcaptures⟩ := exists_found_of_route_eq_matched h
  have hentry : entry ∈ (Snapshot.build version aliases).entries := (List.mem_filter.mp hmem).1
  have hfilled := Alias.isFilledBy_of_check (Snapshot.check_of_mem_build hentry) hcaptures
  exact ⟨entry, hentry, hid, hplan, hfilled, fun more hmore ↦ hplan ▸ hfilled.plan_eq hmore⟩

/-- A reference stands deep inside a parameter, behind a brace that opens nothing. -/
theorem resolve_build_filled_of_nested :
    ∃ id kind captures plan,
      (Snapshot.build 1 [{
        pattern := "put \x7bitem\x7d on \x7blist\x7d"
        actions := [{
          tool := "append"
          params := NameMap.ofList [("what", .arr [.obj [("title", .str "\x7b\x7bitem\x7d")]]),
            ("where", .str "\x7blist\x7d")] }] }]).resolve "Put milk on home ON work" {} 3 =
        .matched id kind captures plan ∧
      ∃ a : Alias, a.IsFilledBy captures ∧ plan = a.plan captures := by
  let aliases : List Alias := [{
    pattern := "put \x7bitem\x7d on \x7blist\x7d"
    actions := [{
      tool := "append"
      params := NameMap.ofList [("what", .arr [.obj [("title", .str "\x7b\x7bitem\x7d")]]),
        ("where", .str "\x7blist\x7d")] }] }]
  have hmatch : ((Snapshot.build 1 aliases).resolve "Put milk on home ON work" {} 3).isMatch =
      true := by decide +kernel
  obtain ⟨id, kind, captures, plan, hresult⟩ := Resolution.isMatch_iff.mp hmatch
  obtain ⟨entry, -, -, hplan, hfilled, -⟩ := resolve_build_filled hresult
  exact ⟨id, kind, captures, plan, hresult, entry.definition, hfilled, hplan⟩

end Routing

end Phrasebook
