import Phrasebook.Alias
import Phrasebook.Glob
import Phrasebook.Substitution

/-!
# Plans

A plan is what an alias comes to once its placeholders are filled: tool calls, in order, with
nothing left to fill. Filling changes texts inside parameters and nothing else, so which tools a
plan calls is decided by the author of the alias alone.
-/

namespace Phrasebook

/-- A tool call that is ready to be made. -/
structure Invocation where
  tool : String
  params : NameMap Json := ∅
  output : Option String := none

instance : Inhabited Invocation := ⟨{ tool := "" }⟩

/-- The text of a parameter, when there is one under that name and it is a text. -/
def Invocation.text? (call : Invocation) (name : String) : Option String :=
  (call.params.get? name).bind Json.str?

/-- Tool calls in the order in which they are to be made, and the tools that have to be there. -/
structure Plan where
  invocations : List Invocation := []
  toolsRequired : NameSet := ∅

instance : Inhabited Plan := ⟨{}⟩

/-- The call that an action comes to. -/
def Action.fill (action : Action) (captures : Captures) : Invocation where
  tool := action.tool
  params := action.params.mapValues (Substitution.substituteWithin captures)
  output := action.output

namespace Plan

/-- The tools that the plan calls, in order. -/
def tools (plan : Plan) : List String := plan.invocations.map (·.tool)

/-- The tools that the plan declares or calls. -/
def neededTools (plan : Plan) : NameSet := plan.toolsRequired.insertAll plan.tools

/-- The tools that the plan needs and that none of the granted globs admits. -/
def missingTools (plan : Plan) (grants : List String) : NameSet :=
  plan.neededTools.filter fun tool ↦ !grants.any fun grant ↦ Glob.admits grant tool

end Plan

/-- The plan of an alias whose placeholders took `captures`. It needs the tools that the alias
declares and those that it calls. -/
def Alias.plan (a : Alias) (captures : Captures) : Plan :=
  let invocations := a.actions.map (·.fill captures)
  ⟨invocations, a.toolsRequired.insertAll (invocations.map (·.tool))⟩

end Phrasebook
