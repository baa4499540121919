import Phrasebook.Plan
import Phrasebook.Proofs.Json.Texts
import Phrasebook.Proofs.Substitution.References

/-!
# What a request can change in a plan

The words of a request reach a plan as captures, and captures are put into texts that refer to a
placeholder. So whoever words a request chooses what some texts say, and nothing else: which tools
are called and in which order, where their results are kept, and the form of every parameter are up
to the author of the alias.

## Two plans of one alias

The law compares two plans that differ in their captures, step by step along the alias that both
come from. `FilledAlike` says of a template and two values that both have the form of the template,
and that a text in which they differ stands where the template has a text with a reference. What the
captures hold is left open, so it does not matter whether a capture looks like a reference, a brace
or a piece of JSON.
-/

namespace Phrasebook

/-! ## Two values of one template -/

namespace Substitution

/-- Two values have the form of a template and differ at most in texts, each in a place where the
template has a text with a reference. Items and fields are listed together with what they became, so
neither list can lose, gain or rename one. -/
inductive FilledAlike : Json → Json → Json → Prop where
  | null : FilledAlike .null .null .null
  | bool (b : Bool) : FilledAlike (.bool b) (.bool b) (.bool b)
  | int (n : Int) : FilledAlike (.int n) (.int n) (.int n)
  | float (x : Float) : FilledAlike (.float x) (.float x) (.float x)
  | char (c : Char) : FilledAlike (.char c) (.char c) (.char c)
  | plain {text : String} (h : ∀ name, ¬Refers text name) :
    FilledAlike (.str text) (.str text) (.str text)
  | filled {text name : String} (h : Refers text name) (first second : String) :
    FilledAlike (.str text) (.str first) (.str second)
  | arr {items : List (Json × Json × Json)}
    (h : ∀ item ∈ items, FilledAlike item.1 item.2.1 item.2.2) :
    FilledAlike (.arr (items.map (·.1))) (.arr (items.map (·.2.1))) (.arr (items.map (·.2.2)))
  | obj {fields : List (String × Json × Json × Json)}
    (h : ∀ field ∈ fields, FilledAlike field.2.1 field.2.2.1 field.2.2.2) :
    FilledAlike (.obj (fields.map fun field ↦ (field.1, field.2.1)))
      (.obj (fields.map fun field ↦ (field.1, field.2.2.1)))
      (.obj (fields.map fun field ↦ (field.1, field.2.2.2)))

theorem filledAlike_str (first second : Captures) (text : String) :
    FilledAlike (.str text) (.str (substitute first text)) (.str (substitute second text)) := by
  by_cases hrefers : ∃ name, Refers text name
  · obtain ⟨name, hname⟩ := hrefers
    exact FilledAlike.filled hname _ _
  · have hnone : ∀ name, ¬Refers text name := not_exists.mp hrefers
    rw [substitute_eq_self first hnone, substitute_eq_self second hnone]
    exact FilledAlike.plain hnone

/-- **Filling a template keeps its form**, whatever is put in. -/
theorem filledAlike_substituteWithin (first second : Captures) (template : Json) :
    FilledAlike template (substituteWithin first template) (substituteWithin second template) := by
  induction template using Json.inductionOn with
  | null => exact FilledAlike.null
  | bool b => exact FilledAlike.bool b
  | int n => exact FilledAlike.int n
  | float x => exact FilledAlike.float x
  | char c => exact FilledAlike.char c
  | str text => exact filledAlike_str first second text
  | arr items ih =>
    have hitems : ∀ item ∈ items.map fun item ↦
        (item, substituteWithin first item, substituteWithin second item),
        FilledAlike item.1 item.2.1 item.2.2 := by
      intro item hitem
      obtain ⟨source, hsource, rfl⟩ := List.mem_map.mp hitem
      exact ih source hsource
    have harr := FilledAlike.arr hitems
    simp only [List.map_map, Function.comp_def, List.map_id'] at harr
    rw [substituteWithin, substituteWithin, Json.mapTexts_arr, Json.mapTexts_arr]
    exact harr
  | obj fields ih =>
    have hfields : ∀ field ∈ fields.map fun field ↦
        (field.1, field.2, substituteWithin first field.2, substituteWithin second field.2),
        FilledAlike field.2.1 field.2.2.1 field.2.2.2 := by
      intro field hfield
      obtain ⟨source, hsource, rfl⟩ := List.mem_map.mp hfield
      exact ih source hsource
    have hobj := FilledAlike.obj hfields
    simp only [List.map_map, Function.comp_def, List.map_id'] at hobj
    rw [substituteWithin, substituteWithin, Json.mapTexts_obj, Json.mapTexts_obj]
    exact hobj

end Substitution

/-! ## Two calls of one action -/

/-- Two calls come from one action: they have its tool, its output and its parameters, and under
each name their values are filled alike. -/
structure Action.FilledAlike (action : Action) (call other : Invocation) : Prop where
  tool : call.tool = action.tool ∧ other.tool = action.tool
  output : call.output = action.output ∧ other.output = action.output
  keys : call.params.keys = action.params.keys ∧ other.params.keys = action.params.keys
  params : ∀ name template, action.params.get? name = some template →
    ∃ value changed, call.params.get? name = some value ∧
      other.params.get? name = some changed ∧ Substitution.FilledAlike template value changed

theorem Action.get?_params_fill (action : Action) (captures : Captures) (name : String) :
    (action.fill captures).params.get? name =
      (action.params.get? name).map (Substitution.substituteWithin captures) := by
  rw [fill, NameMap.get?_mapValues]

theorem Action.filledAlike_fill (action : Action) (first second : Captures) :
    action.FilledAlike (action.fill first) (action.fill second) where
  tool := ⟨rfl, rfl⟩
  output := ⟨rfl, rfl⟩
  keys := ⟨NameMap.keys_mapValues _ _, NameMap.keys_mapValues _ _⟩
  params := by
    intro name template htemplate
    refine ⟨Substitution.substituteWithin first template,
      Substitution.substituteWithin second template, ?_, ?_, ?_⟩
    · rw [get?_params_fill, htemplate, Option.map_some]
    · rw [get?_params_fill, htemplate, Option.map_some]
    · exact Substitution.filledAlike_substituteWithin first second template

/-! ## Two plans of one alias -/

/-- What a plan lacks is a matter of its tools alone. -/
theorem Plan.missingTools_congr {plan other : Plan}
    (hrequired : plan.toolsRequired = other.toolsRequired) (htools : plan.tools = other.tools)
    (grants : List String) : plan.missingTools grants = other.missingTools grants := by
  rw [missingTools, missingTools, neededTools, neededTools, hrequired, htools]

namespace Alias

theorem invocations_plan (a : Alias) (captures : Captures) :
    (a.plan captures).invocations = a.actions.map (·.fill captures) := rfl

/-- The calls of a plan follow the actions, so their tools do. -/
theorem tools_plan (a : Alias) (captures : Captures) :
    (a.plan captures).tools = a.actions.map (·.tool) := by
  rw [Plan.tools, invocations_plan, List.map_map]
  rfl

theorem toolsRequired_plan (a : Alias) (captures : Captures) :
    (a.plan captures).toolsRequired = a.toolsRequired.insertAll (a.actions.map (·.tool)) := by
  rw [← tools_plan a captures]
  rfl

/-- **A request changes texts with references and nothing else.** Two plans of one alias make a call
for each of its actions, in their order, and the two calls of an action differ at most in such
texts. They require the tools that the alias declares or calls, and under any grants they lack the
same ones. -/
theorem plan_filledAlike (a : Alias) (first second : Captures) :
    (a.plan first).invocations.length = a.actions.length ∧
    (a.plan second).invocations.length = a.actions.length ∧
    (∀ (i : Nat) (action : Action), a.actions[i]? = some action →
      ∃ call other, (a.plan first).invocations[i]? = some call ∧
        (a.plan second).invocations[i]? = some other ∧ action.FilledAlike call other) ∧
    (a.plan first).toolsRequired = (a.plan second).toolsRequired ∧
    (∀ tool, tool ∈ (a.plan first).toolsRequired ↔
      tool ∈ a.toolsRequired ∨ ∃ action ∈ a.actions, action.tool = tool) ∧
    ∀ grants, (a.plan first).missingTools grants = (a.plan second).missingTools grants := by
  have hrequired : (a.plan first).toolsRequired = (a.plan second).toolsRequired := by
    rw [toolsRequired_plan, toolsRequired_plan]
  have htools : (a.plan first).tools = (a.plan second).tools := by
    rw [tools_plan, tools_plan]
  refine ⟨?_, ?_, ?_, hrequired, ?_, Plan.missingTools_congr hrequired htools⟩
  · rw [invocations_plan, List.length_map]
  · rw [invocations_plan, List.length_map]
  · intro i action haction
    refine ⟨action.fill first, action.fill second, ?_, ?_, action.filledAlike_fill first second⟩
    · rw [invocations_plan, List.getElem?_map, haction, Option.map_some]
    · rw [invocations_plan, List.getElem?_map, haction, Option.map_some]
  · intro tool
    rw [toolsRequired_plan, NameSet.mem_insertAll, List.mem_map, or_comm]

end Alias

end Phrasebook
