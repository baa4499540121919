import Phrasebook.Plan.Form
import Phrasebook.Resolution

/-!
# Written forms of resolutions

A resolution is written as a record whose first part, `result`, says which one it is; the other
parts depend on it. Because the parts are not known before `result` is, they are read as values
whose form had to be found out first.
-/

namespace Phrasebook

namespace MatchKind

/-- The kinds by the words for them. -/
def words : List (String × MatchKind) :=
  [exact, exactStripped, fuzzy].map fun kind ↦ (kind.label, kind)

/-- The written form of a kind. -/
def toJson (kind : MatchKind) : Json := .str kind.label

/-- Reads a kind. -/
def decode (dialect : Dialect) : Json → Decoded MatchKind := Json.decodeWord dialect words

end MatchKind

namespace Suggestion

/-- The written form of a suggestion. -/
def toJson (suggestion : Suggestion) : Json :=
  .obj [("alias_id", .str suggestion.aliasId), ("description", .str suggestion.description),
    ("score", .float suggestion.score)]

/-- Reads a suggestion. -/
def decode (dialect : Dialect) : Json → Decoded Suggestion :=
  Json.decodeRecord dialect 3 fun record ↦
    Suggestion.mk <$> record.required 0 "alias_id" Json.decodeText
      <*> record.required 1 "description" Json.decodeText
      <*> record.required 2 "score" Json.decodeFloat

end Suggestion

namespace Resolution

/-- The captures of a match as an object. -/
def capturesToJson (captures : Captures) : Json := .obj (captures.mapValues .str).entries

/-- The written form of a resolution. -/
def toJson : Resolution → Json
  | noMatch => .obj [("result", .str "no_match")]
  | matched aliasId kind captures plan =>
    .obj [("result", .str "matched"), ("alias_id", .str aliasId), ("match_kind", kind.toJson),
      ("captures", capturesToJson captures), ("plan", plan.toJson)]
  | suggestions candidates =>
    .obj [("result", .str "suggestions"), ("candidates", .arr (candidates.map Suggestion.toJson))]

/-- Which resolution a record is. -/
inductive Tag where
  | noMatch
  | matched
  | suggestions
deriving DecidableEq

/-- The tags by the words for them. -/
def tagWords : List (String × Tag) :=
  [("no_match", .noMatch), ("matched", .matched), ("suggestions", .suggestions)]

/-- Reads the parts after the tag. -/
def decodeParts (tag : Tag) (parts : Json) : Decoded Resolution :=
  match tag with
  | .noMatch =>
    match parts with
    | .arr (_ :: _) => .fail .invalidLength
    | _ => .ok noMatch
  | .matched => parts |> Json.decodeRecord .nested 4 fun record ↦
    matched <$> record.required 0 "alias_id" Json.decodeText
      <*> record.required 1 "match_kind" (MatchKind.decode .nested)
      <*> record.required 2 "captures" (Json.decodeMap Json.decodeText)
      <*> record.required 3 "plan" (Plan.decode .nested)
  | .suggestions => parts |> Json.decodeRecord .nested 1 fun record ↦
    suggestions <$> record.required 0 "candidates" (Json.decodeList (Suggestion.decode .nested))

/-- Reads a resolution. -/
def decode : Json → Decoded Resolution
  | .obj fields =>
    ((Record.named fields).required 0 "result" (Json.decodeTag tagWords)).andThen
      fun tag ↦ decodeParts tag (.obj (fields.filter fun field ↦ field.1 != "result"))
  | .arr (first :: rest) =>
    (Json.decodeTag tagWords first).andThen fun tag ↦ decodeParts tag (.arr rest)
  | .arr [] => .fail .missingField
  | _ => .fail .invalidType

end Resolution

end Phrasebook
