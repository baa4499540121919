import Phrasebook.Json.Decoded
import Phrasebook.Scope

/-!
# Written forms of aliases and scopes

An alias is written as a record in which only the phrase has to be given. On output a part is left
out when it is absent, and all others are given.
-/

namespace Phrasebook

namespace Action

/-- The written form of an action. -/
def toJson (action : Action) : Json :=
  .obj <| [("tool", .str action.tool), ("params", .obj action.params.entries)] ++
    Json.optionalField "output" action.output

/-- Reads an action. -/
def decode (dialect : Dialect) : Json → Decoded Action :=
  Json.decodeRecord dialect 3 fun record ↦
    Action.mk <$> record.required 0 "tool" Json.decodeText
      <*> record.withDefault 1 "params" ∅ Json.decodeParams
      <*> record.optional 2 "output" Json.decodeText

end Action

namespace Alias

/-- The written form of an alias. -/
def toJson (a : Alias) : Json :=
  .obj <| Json.optionalField "id" a.id ++
    [("pattern", .str a.pattern),
      ("layer", .str a.layer),
      ("context", Json.texts a.context.toList),
      ("priority", .int a.priority.toInt),
      ("tools_required", Json.texts a.toolsRequired.toList),
      ("actions", .arr (a.actions.map Action.toJson)),
      ("enabled", .bool a.enabled)] ++
    Json.optionalField "description" a.description

/-- Reads an alias. -/
def decode (dialect : Dialect) : Json → Decoded Alias :=
  Json.decodeRecord dialect 9 fun record ↦
    Alias.mk <$> record.optional 0 "id" Json.decodeText
      <*> record.required 1 "pattern" Json.decodeText
      <*> record.withDefault 2 "layer" publicLayer Json.decodeText
      <*> record.withDefault 3 "context" ∅ Json.decodeNames
      <*> record.withDefault 4 "priority" 0 Json.decodeInt32
      <*> record.withDefault 5 "tools_required" ∅ Json.decodeNames
      <*> record.withDefault 6 "actions" [] (Json.decodeList (Action.decode dialect))
      <*> record.withDefault 7 "enabled" true Json.decodeBool
      <*> record.optional 8 "description" Json.decodeText

end Alias

namespace Scope

/-- The written form of a scope. -/
def toJson (scope : Scope) : Json :=
  .obj [("layer", .str scope.layer), ("context", Json.texts scope.context.toList)]

/-- Reads a scope. -/
def decode (dialect : Dialect) : Json → Decoded Scope :=
  Json.decodeRecord dialect 2 fun record ↦
    Scope.mk <$> record.required 0 "layer" Json.decodeText
      <*> record.withDefault 1 "context" ∅ Json.decodeNames

end Scope

end Phrasebook
