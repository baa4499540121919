import Phrasebook.Alias.Form
import Phrasebook.Proofs.Json.Reading

/-!
# Aliases read back

An alias is written as a record and read back as the same alias, in every dialect. The one thing
that could be lost on the way are parameters that no JSON document can hold, and those that were
read are never such.
-/

namespace Phrasebook

open Decoded Record

variable {dialect : Dialect} {value : Json}

/-! ## Actions -/

namespace Action

/-- The parts of the record are those of the action. -/
@[mk_iff]
structure ReadFrom (record : Record) (action : Action) : Prop where
  tool : record.required 0 "tool" Json.decodeText = .ok action.tool
  params : record.withDefault 1 "params" ∅ Json.decodeParams = .ok action.params
  output : record.optional 2 "output" Json.decodeText = .ok action.output

theorem decode_eq_ok_iff {action : Action} :
    decode dialect value = .ok action ↔
      ∃ record, Record.ofJson dialect 3 value = .ok record ∧ ReadFrom record action := by
  obtain ⟨tool, params, output⟩ := action
  simp only [decode, Json.decodeRecord, andThen_eq_ok_iff, seq_eq_ok_iff, map_eq_ok_iff,
    readFrom_iff, mk.injEq, ↓existsAndEq, and_true, and_assoc]

/-- The parameters are such as JSON has. -/
def IsNormal (action : Action) : Prop := (Json.obj action.params.entries).IsNormal

theorem isNormal_of_decode {action : Action} (h : decode dialect value = .ok action) :
    action.IsNormal := by
  obtain ⟨record, -, hread⟩ := decode_eq_ok_iff.mp h
  rcases withDefault_eq_ok_iff.mp hread.params with ⟨-, habsent⟩ | ⟨params, -, hparams⟩
  · rw [IsNormal, ← habsent]
    exact Json.IsNormal.obj List.Pairwise.nil (List.forall_mem_nil _)
  · rw [IsNormal, ← Json.decodeParams_eq_ok_iff.mp hparams]
    exact Json.isNormal_normalize params

theorem decode_toJson {action : Action} (h : action.IsNormal) :
    decode dialect action.toJson = .ok action := by
  have hparams : Json.decodeParams (.obj action.params.entries) = .ok action.params :=
    Json.decodeParams_eq_ok_iff.mpr h.normalize_eq
  exact decode_eq_ok_iff.mpr ⟨_, rfl,
    { tool := required_named (.str action.tool) (by simp) rfl
      params := withDefault_named (.obj action.params.entries) (by simp) hparams
      output := optional_named (by simp) }⟩

end Action

/-! ## Aliases -/

namespace Alias

/-- The parts of the record are those of the alias. -/
@[mk_iff]
structure ReadFrom (dialect : Dialect) (record : Record) (a : Alias) : Prop where
  id : record.optional 0 "id" Json.decodeText = .ok a.id
  pattern : record.required 1 "pattern" Json.decodeText = .ok a.pattern
  layer : record.withDefault 2 "layer" publicLayer Json.decodeText = .ok a.layer
  context : record.withDefault 3 "context" ∅ Json.decodeNames = .ok a.context
  priority : record.withDefault 4 "priority" 0 Json.decodeInt32 = .ok a.priority
  toolsRequired : record.withDefault 5 "tools_required" ∅ Json.decodeNames = .ok a.toolsRequired
  actions : record.withDefault 6 "actions" [] (Json.decodeList (Action.decode dialect)) =
    .ok a.actions
  enabled : record.withDefault 7 "enabled" true Json.decodeBool = .ok a.enabled
  description : record.optional 8 "description" Json.decodeText = .ok a.description

theorem decode_eq_ok_iff {a : Alias} :
    decode dialect value = .ok a ↔
      ∃ record, Record.ofJson dialect 9 value = .ok record ∧ ReadFrom dialect record a := by
  obtain ⟨id, pattern, layer, context, priority, toolsRequired, actions, enabled, description⟩ := a
  simp only [decode, Json.decodeRecord, andThen_eq_ok_iff, seq_eq_ok_iff, map_eq_ok_iff,
    readFrom_iff, mk.injEq, ↓existsAndEq, and_true, and_assoc]

/-- The parameters of all actions are such as JSON has. -/
def IsNormal (a : Alias) : Prop := ∀ action ∈ a.actions, action.IsNormal

theorem isNormal_of_decode {a : Alias} (h : decode dialect value = .ok a) : a.IsNormal := by
  obtain ⟨record, -, hread⟩ := decode_eq_ok_iff.mp h
  rcases withDefault_eq_ok_iff.mp hread.actions with ⟨-, habsent⟩ | ⟨actions, -, hactions⟩
  · rw [IsNormal, ← habsent]
    exact List.forall_mem_nil _
  · exact Json.forall_mem_of_decodeList hactions fun _ _ ↦ Action.isNormal_of_decode

theorem decode_toJson {a : Alias} (h : a.IsNormal) : decode dialect a.toJson = .ok a := by
  have hactions : Json.decodeList (Action.decode dialect) (.arr (a.actions.map Action.toJson)) =
      .ok a.actions :=
    Json.decodeList_map fun action haction ↦ Action.decode_toJson (h action haction)
  exact decode_eq_ok_iff.mpr ⟨_, rfl,
    { id := optional_named (by simp)
      pattern := required_named (.str a.pattern) (by simp) rfl
      layer := withDefault_named (.str a.layer) (by simp) rfl
      context := withDefault_named (Json.texts a.context.toList) (by simp)
        (Json.decodeNames_texts a.context)
      priority := withDefault_named (.int a.priority.toInt) (by simp)
        (Json.decodeInt32_toInt a.priority)
      toolsRequired := withDefault_named (Json.texts a.toolsRequired.toList) (by simp)
        (Json.decodeNames_texts a.toolsRequired)
      actions := withDefault_named (.arr (a.actions.map Action.toJson)) (by simp) hactions
      enabled := withDefault_named (.bool a.enabled) (by simp) rfl
      description := optional_named (by simp) }⟩

end Alias

end Phrasebook
