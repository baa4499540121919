import Phrasebook.Json.Decoded
import Phrasebook.Plan

/-!
# Written forms of plans
-/

namespace Phrasebook

namespace Invocation

/-- The written form of a call. -/
def toJson (call : Invocation) : Json :=
  .obj <| [("tool", .str call.tool), ("params", .obj call.params.entries)] ++
    Json.optionalField "output" call.output

/-- Reads a call. -/
def decode (dialect : Dialect) : Json → Decoded Invocation :=
  Json.decodeRecord dialect 3 fun record ↦
    Invocation.mk <$> record.required 0 "tool" Json.decodeText
      <*> record.withDefault 1 "params" ∅ Json.decodeParams
      <*> record.optional 2 "output" Json.decodeText

end Invocation

namespace Plan

/-- The written form of a plan. -/
def toJson (plan : Plan) : Json :=
  .obj [("invocations", .arr (plan.invocations.map Invocation.toJson)),
    ("tools_required", Json.texts plan.toolsRequired.toList)]

/-- Reads a plan. -/
def decode (dialect : Dialect) : Json → Decoded Plan :=
  Json.decodeRecord dialect 2 fun record ↦
    Plan.mk <$> record.required 0 "invocations" (Json.decodeList (Invocation.decode dialect))
      <*> record.required 1 "tools_required" Json.decodeNames

end Plan

end Phrasebook
