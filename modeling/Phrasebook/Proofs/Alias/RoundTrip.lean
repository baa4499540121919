import Phrasebook.Proofs.Alias.Form
import Phrasebook.Proofs.Json.RoundTrip

/-!
# Aliases and scopes make round trips

The parts of an alias that may be left out are those that are read as what they would have been: an
absent name as an absent one, and an absent layer as that of everyone. The parts are found by their
names or by their places, and neither way depends on the order of fields inside them.
-/

namespace Phrasebook

open Decoded Json Record

variable {dialect : Dialect} {record : Record}

/-! ## Actions -/

namespace Action

/-- The parts of an action in order. -/
def fields (action : Action) : List (String × Json) :=
  [("tool", .str action.tool), ("params", .obj action.params.entries),
    ("output", ofOption .str action.output)]

theorem ReadFrom.normalize {action : Action} (h : ReadFrom record action) :
    ReadFrom record.normalize action where
  tool := required_normalize readsNormalForm_decodeText trivial h.tool
  params := withDefault_normalize readsNormalForm_decodeParams trivial h.params
  output := optional_normalize h.output

theorem readsNormalForm_decode : ReadsNormalForm (decode dialect) IsNormal :=
  Record.readsNormalForm decode_eq_ok_iff fun _ h ↦ h.normalize

theorem decode_ordered {action : Action} (h : action.IsNormal) :
    decode dialect (.arr (action.fields.map (·.2))) = .ok action :=
  decode_eq_ok_iff.mpr ⟨_, rfl,
    { tool := required_ordered rfl rfl
      params := withDefault_ordered rfl (decodeParams_eq_ok_iff.mpr h.normalize_eq)
      output := optional_ordered rfl }⟩

theorem toJson_eq (action : Action) :
    action.toJson = .obj (action.fields.filter fun field ↦ !field.2.isNull) := by
  obtain ⟨tool, params, output⟩ := action
  cases output with
  | none => rfl
  | some output => rfl

theorem roundTrips (dialect : Dialect) :
    RecordRoundTrips fields toJson (decode dialect) IsNormal :=
  .of_readsNormalForm readsNormalForm_decode (fun _ _ _ ↦ isNormal_of_decode)
    (fun _ ↦ decode_toJson) toJson_eq fun _ ↦ decode_ordered

end Action

/-! ## Aliases -/

namespace Alias

/-- The parts of an alias in order. -/
def fields (a : Alias) : List (String × Json) :=
  [("id", ofOption .str a.id),
    ("pattern", .str a.pattern),
    ("layer", .str a.layer),
    ("context", texts a.context.toList),
    ("priority", .int a.priority.toInt),
    ("tools_required", texts a.toolsRequired.toList),
    ("actions", .arr (a.actions.map Action.toJson)),
    ("enabled", .bool a.enabled),
    ("description", ofOption .str a.description)]

theorem ReadFrom.normalize {a : Alias} (hnormal : a.IsNormal) (h : ReadFrom dialect record a) :
    ReadFrom dialect record.normalize a where
  id := optional_normalize h.id
  pattern := required_normalize readsNormalForm_decodeText trivial h.pattern
  layer := withDefault_normalize readsNormalForm_decodeText trivial h.layer
  context := withDefault_normalize readsNormalForm_decodeNames trivial h.context
  priority := withDefault_normalize readsNormalForm_decodeInt32 trivial h.priority
  toolsRequired := withDefault_normalize readsNormalForm_decodeNames trivial h.toolsRequired
  actions := withDefault_normalize Action.readsNormalForm_decode.decodeList hnormal h.actions
  enabled := withDefault_normalize readsNormalForm_decodeBool trivial h.enabled
  description := optional_normalize h.description

theorem readsNormalForm_decode : ReadsNormalForm (decode dialect) IsNormal :=
  Record.readsNormalForm decode_eq_ok_iff fun hnormal h ↦ h.normalize hnormal

theorem decode_ordered {a : Alias} (h : a.IsNormal) :
    decode dialect (.arr (a.fields.map (·.2))) = .ok a := by
  have hactions : decodeList (Action.decode dialect) (.arr (a.actions.map Action.toJson)) =
      .ok a.actions := decodeList_map fun action haction ↦ Action.decode_toJson (h action haction)
  exact decode_eq_ok_iff.mpr ⟨_, rfl,
    { id := optional_ordered rfl
      pattern := required_ordered rfl rfl
      layer := withDefault_ordered rfl rfl
      context := withDefault_ordered rfl (decodeNames_texts a.context)
      priority := withDefault_ordered rfl (decodeInt32_toInt a.priority)
      toolsRequired := withDefault_ordered rfl (decodeNames_texts a.toolsRequired)
      actions := withDefault_ordered rfl hactions
      enabled := withDefault_ordered rfl rfl
      description := optional_ordered rfl }⟩

theorem toJson_eq (a : Alias) :
    a.toJson = .obj (a.fields.filter fun field ↦ !field.2.isNull) := by
  obtain ⟨id, pattern, layer, context, priority, toolsRequired, actions, enabled, description⟩ := a
  cases id <;> cases description <;> rfl

theorem roundTrips (dialect : Dialect) :
    RecordRoundTrips fields toJson (decode dialect) IsNormal :=
  .of_readsNormalForm readsNormalForm_decode (fun _ _ _ ↦ isNormal_of_decode)
    (fun _ ↦ decode_toJson) toJson_eq fun _ ↦ decode_ordered

end Alias

/-! ## Scopes -/

namespace Scope

/-- The parts of a scope in order. -/
def fields (scope : Scope) : List (String × Json) :=
  [("layer", .str scope.layer), ("context", texts scope.context.toList)]

/-- The parts of the record are those of the scope. -/
@[mk_iff]
structure ReadFrom (record : Record) (scope : Scope) : Prop where
  layer : record.required 0 "layer" decodeText = .ok scope.layer
  context : record.withDefault 1 "context" ∅ decodeNames = .ok scope.context

theorem decode_eq_ok_iff {value : Json} {scope : Scope} :
    decode dialect value = .ok scope ↔
      ∃ record, Record.ofJson dialect 2 value = .ok record ∧ ReadFrom record scope := by
  obtain ⟨layer, context⟩ := scope
  simp only [decode, decodeRecord, andThen_eq_ok_iff, seq_eq_ok_iff, map_eq_ok_iff, readFrom_iff,
    mk.injEq, ↓existsAndEq, and_true]

theorem ReadFrom.normalize {scope : Scope} (h : ReadFrom record scope) :
    ReadFrom record.normalize scope where
  layer := required_normalize readsNormalForm_decodeText trivial h.layer
  context := withDefault_normalize readsNormalForm_decodeNames trivial h.context

theorem readsNormalForm_decode : ReadsNormalForm (decode dialect) fun _ ↦ True :=
  Record.readsNormalForm decode_eq_ok_iff fun _ h ↦ h.normalize

theorem decode_toJson (scope : Scope) : decode dialect scope.toJson = .ok scope :=
  decode_eq_ok_iff.mpr ⟨_, rfl,
    { layer := required_named (.str scope.layer) (by simp) rfl
      context := withDefault_named (texts scope.context.toList) (by simp)
        (decodeNames_texts scope.context) }⟩

theorem decode_ordered (scope : Scope) :
    decode dialect (.arr (scope.fields.map (·.2))) = .ok scope :=
  decode_eq_ok_iff.mpr ⟨_, rfl,
    { layer := required_ordered rfl rfl
      context := withDefault_ordered rfl (decodeNames_texts scope.context) }⟩

theorem roundTrips (dialect : Dialect) :
    RecordRoundTrips fields toJson (decode dialect) fun _ ↦ True :=
  .of_readsNormalForm readsNormalForm_decode (fun _ _ _ _ ↦ trivial)
    (fun scope _ ↦ decode_toJson scope) (fun _ ↦ rfl) fun scope _ ↦ decode_ordered scope

end Scope

end Phrasebook
