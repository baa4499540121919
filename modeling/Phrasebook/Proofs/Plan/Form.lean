import Phrasebook.Plan.Form
import Phrasebook.Proofs.Alias.RoundTrip

/-!
# Plans make round trips

A call is written as the action is that it was made from, only with its references filled. So calls
read back because actions do, and plans because calls do.
-/

namespace Phrasebook

open Decoded Json Record

variable {dialect : Dialect} {record : Record}

/-! ## Calls -/

namespace Invocation

/-- The action with the same parts. -/
def toAction : Invocation ≃ Action where
  toFun call := ⟨call.tool, call.params, call.output⟩
  invFun action := ⟨action.tool, action.params, action.output⟩
  left_inv _ := rfl
  right_inv _ := rfl

theorem decode_eq (dialect : Dialect) :
    decode dialect = fun value ↦ toAction.symm <$> Action.decode dialect value := by
  funext value
  rw [decode, Action.decode, decodeRecord, decodeRecord]
  cases ofJson dialect 3 value with
  | fault => rfl
  | ok record =>
    -- the same three parts are put together, by one constructor or the other
    show Invocation.mk <$> _ <*> _ <*> _ = toAction.symm <$> (Action.mk <$> _ <*> _ <*> _)
    cases record.required 0 "tool" decodeText <;>
      cases record.withDefault 1 "params" ∅ decodeParams <;>
      cases record.optional 2 "output" decodeText <;> rfl

/-- The parts of a call in order. -/
def fields (call : Invocation) : List (String × Json) := call.toAction.fields

/-- The parameters are such as JSON has. -/
def IsNormal (call : Invocation) : Prop := (Json.obj call.params.entries).IsNormal

theorem isNormal_of_decode {value : Json} {call : Invocation}
    (h : decode dialect value = .ok call) : call.IsNormal := by
  rw [decode_eq] at h
  obtain ⟨action, haction, rfl⟩ := map_eq_ok_iff.mp h
  exact Action.isNormal_of_decode haction

theorem roundTrips (dialect : Dialect) :
    RecordRoundTrips fields toJson (decode dialect) IsNormal := by
  rw [decode_eq]
  exact (Action.roundTrips dialect).congr toAction

end Invocation

/-! ## Plans -/

namespace Plan

/-- The parts of a plan in order. -/
def fields (plan : Plan) : List (String × Json) :=
  [("invocations", .arr (plan.invocations.map Invocation.toJson)),
    ("tools_required", texts plan.toolsRequired.toList)]

/-- The parameters of all calls are such as JSON has. -/
def IsNormal (plan : Plan) : Prop := ∀ call ∈ plan.invocations, call.IsNormal

/-- The parts of the record are those of the plan. -/
@[mk_iff]
structure ReadFrom (dialect : Dialect) (record : Record) (plan : Plan) : Prop where
  invocations : record.required 0 "invocations" (decodeList (Invocation.decode dialect)) =
    .ok plan.invocations
  toolsRequired : record.required 1 "tools_required" decodeNames = .ok plan.toolsRequired

theorem decode_eq_ok_iff {value : Json} {plan : Plan} :
    decode dialect value = .ok plan ↔
      ∃ record, Record.ofJson dialect 2 value = .ok record ∧ ReadFrom dialect record plan := by
  obtain ⟨invocations, toolsRequired⟩ := plan
  simp only [decode, decodeRecord, andThen_eq_ok_iff, seq_eq_ok_iff, map_eq_ok_iff, readFrom_iff,
    mk.injEq, ↓existsAndEq, and_true]

theorem ReadFrom.normalize {plan : Plan} (hnormal : plan.IsNormal)
    (h : ReadFrom dialect record plan) : ReadFrom dialect record.normalize plan where
  invocations := required_normalize (Invocation.roundTrips dialect).readsNormalForm.decodeList
    hnormal h.invocations
  toolsRequired := required_normalize readsNormalForm_decodeNames trivial h.toolsRequired

theorem isNormal_of_decode {value : Json} {plan : Plan} (h : decode dialect value = .ok plan) :
    plan.IsNormal := by
  obtain ⟨record, -, hread⟩ := decode_eq_ok_iff.mp h
  obtain ⟨calls, -, hcalls⟩ := required_eq_ok_iff.mp hread.invocations
  exact forall_mem_of_decodeList hcalls fun _ _ ↦ Invocation.isNormal_of_decode

theorem decode_invocations {plan : Plan} (h : plan.IsNormal) :
    decodeList (Invocation.decode dialect) (.arr (plan.invocations.map Invocation.toJson)) =
      .ok plan.invocations :=
  decodeList_map fun call hcall ↦ (Invocation.roundTrips dialect).read_written call (h call hcall)

theorem roundTrips (dialect : Dialect) :
    RecordRoundTrips fields toJson (decode dialect) IsNormal := by
  refine .of_readsNormalForm (Record.readsNormalForm decode_eq_ok_iff fun hnormal h ↦
    h.normalize hnormal) (fun _ _ _ ↦ isNormal_of_decode) ?_ (fun _ ↦ rfl) ?_
  · intro plan hnormal
    exact decode_eq_ok_iff.mpr ⟨_, rfl,
      { invocations := required_named _ rfl (decode_invocations hnormal)
        toolsRequired := required_named _ rfl (decodeNames_texts plan.toolsRequired) }⟩
  · intro plan hnormal
    exact decode_eq_ok_iff.mpr ⟨_, rfl,
      { invocations := required_ordered rfl (decode_invocations hnormal)
        toolsRequired := required_ordered rfl (decodeNames_texts plan.toolsRequired) }⟩

end Plan

end Phrasebook
