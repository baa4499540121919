import Phrasebook.Json

/-!
# Aliases

An alias ties a phrase with placeholders to the tool calls that it stands for. It is data that the
authors of a phrasebook write down: who may use it, when it applies, how it ranks, and what it does.
-/

namespace Phrasebook

/-- The layer that every caller sees. -/
def publicLayer : String := "public"

/-- A tool call as the author of an alias writes it. The texts in its parameters may refer to
placeholders of the alias. -/
structure Action where
  /-- The tool to call. -/
  tool : String
  /-- The parameters, whose texts may hold references such as `{title}`. -/
  params : NameMap Json := ∅
  /-- The name under which whoever runs the plan keeps the result of the call. -/
  output : Option String := none

instance : Inhabited Action := ⟨{ tool := "" }⟩

/-- A phrase and the tool calls that it stands for. -/
structure Alias where
  /-- The name that the author gave it. -/
  id : Option String := none
  /-- The phrase, a template. -/
  pattern : String
  /-- The group of callers that it is for. -/
  layer : String := publicLayer
  /-- The circumstances in which it applies; without any it always applies. -/
  context : NameSet := ∅
  /-- Among equally good matches, lower goes first. -/
  priority : Int32 := 0
  /-- The tools that the author declares to be needed. -/
  toolsRequired : NameSet := ∅
  /-- The calls, in the order in which they are to be made. -/
  actions : List Action := []
  /-- An alias that is not enabled never matches. -/
  enabled : Bool := true
  /-- What to show when the alias is suggested. -/
  description : Option String := none

instance : Inhabited Alias := ⟨{ pattern := "" }⟩

namespace Alias

/-- What the alias is known by: the author's name for it, or else its layer and phrase. -/
def key (a : Alias) : String := a.id.getD (a.layer ++ ":" ++ a.pattern)

/-- Whether the alias is for every caller. -/
def isPublic (a : Alias) : Bool := a.layer == publicLayer

/-- What to show when the alias is suggested: its description, or else its phrase. -/
def displayDescription (a : Alias) : String := a.description.getD a.pattern

/-- The alias with one more circumstance in which it applies. -/
def addContext (a : Alias) (tag : String) : Alias := { a with context := a.context.insert tag }

/-- The alias with one more call, whose tool is declared along with it. -/
def addAction (a : Alias) (action : Action) : Alias :=
  { a with
    toolsRequired := a.toolsRequired.insert action.tool
    actions := a.actions ++ [action] }

end Alias

end Phrasebook
