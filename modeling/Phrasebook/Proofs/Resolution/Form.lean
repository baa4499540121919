import Phrasebook.Proofs.Plan.Form
import Phrasebook.Resolution.Form

/-!
# Resolutions make round trips

A resolution is read in two steps: the tag first, then the parts that the tag promises, from what is
left of the record without the tag. No part has the name of the tag, so nothing else is lost with
it, and the resolution is read as one record whose first part is the tag (`decode_eq_ok_iff`).
-/

namespace Phrasebook

open Decoded Json

/-! ## Records without their first part -/

namespace Record

variable {α : Type} {index count : ℕ} {name : String}

/-- The JSON value that is taken for the record. -/
def toJson : Record → Json
  | named fields => .obj fields
  | ordered items => .arr items

/-- At most `count` parts stand in order. -/
def Fits (count : ℕ) : Record → Prop
  | named _ => True
  | ordered items => items.length ≤ count

/-- The record without its first part, which has the name `result`. -/
def untagged : Record → Record
  | named fields => .named (fields.filter fun field ↦ field.1 != "result")
  | ordered items => .ordered items.tail

theorem eq_toJson_of_ofJson {dialect : Dialect} {value : Json} {record : Record}
    (h : ofJson dialect count value = .ok record) : value = record.toJson := by
  cases value with
  | obj fields =>
    obtain rfl := Decoded.ok.inj h
    rfl
  | arr items =>
    obtain rfl := eq_ordered_of_ofJson_arr h
    rfl
  | null | bool | int | float | char | str => cases h

theorem ofJson_toJson_eq_ok_iff {record record' : Record} :
    ofJson .nested count record.toJson = .ok record' ↔ record = record' ∧ record.Fits count := by
  cases record with
  | named fields =>
    show Decoded.ok (named fields) = .ok record' ↔ _
    simp [Fits]
  | ordered items =>
    rw [toJson, ofJson, Fits]
    by_cases hcount : count < items.length
    · rw [if_pos (by simpa using ⟨hcount, rfl⟩)]
      refine iff_of_false (fun h ↦ ?_) fun h ↦ Nat.not_le.mpr hcount h.2
      cases h
    · rw [if_neg (by simp [hcount])]
      simp [Nat.not_lt.mp hcount]

theorem fits_untagged_iff {record : Record} :
    record.untagged.Fits count ↔ record.Fits (count + 1) := by
  cases record with
  | named => exact Iff.rfl
  | ordered items =>
    show items.tail.length ≤ count ↔ items.length ≤ count + 1
    rw [List.length_tail]
    omega

theorem part?_untagged {record : Record} (hname : name ≠ "result") :
    record.untagged.part? index name = record.part? (index + 1) name := by
  cases record with
  | named fields =>
    have hfilter : (fields.filter fun field ↦ field.1 != "result").filter
        (fun field ↦ field.1 == name) = fields.filter fun field ↦ field.1 == name := by
      rw [List.filter_filter]
      refine List.filter_congr fun field _ ↦ ?_
      by_cases heq : field.1 = name
      · simp [heq, hname]
      · simp [heq]
    show part? (.named _) index name = part? (.named fields) (index + 1) name
    rw [part?, part?, hfilter]
  | ordered items =>
    show Decoded.ok items.tail[index]? = Decoded.ok items[index + 1]?
    rw [List.getElem?_tail]

theorem required_untagged_eq_ok_iff {record : Record} (hname : name ≠ "result")
    {decode : Json → Decoded α} {a : α} :
    record.untagged.required index name decode = .ok a ↔
      record.required (index + 1) name decode = .ok a := by
  rw [required_eq_ok_iff, required_eq_ok_iff, part?_untagged hname]

end Record

open Record

/-! ## Suggestions -/

namespace Suggestion

variable {dialect : Dialect} {record : Record}

/-- The parts of a suggestion in order. -/
def fields (suggestion : Suggestion) : List (String × Json) :=
  [("alias_id", .str suggestion.aliasId), ("description", .str suggestion.description),
    ("score", .float suggestion.score)]

/-- The score is one that JSON has. -/
def IsFinite (suggestion : Suggestion) : Prop := suggestion.score.isFinite = true

/-- The parts of the record are those of the suggestion. -/
@[mk_iff]
structure ReadFrom (record : Record) (suggestion : Suggestion) : Prop where
  aliasId : record.required 0 "alias_id" decodeText = .ok suggestion.aliasId
  description : record.required 1 "description" decodeText = .ok suggestion.description
  score : record.required 2 "score" decodeFloat = .ok suggestion.score

theorem decode_eq_ok_iff {value : Json} {suggestion : Suggestion} :
    decode dialect value = .ok suggestion ↔
      ∃ record, Record.ofJson dialect 3 value = .ok record ∧ ReadFrom record suggestion := by
  obtain ⟨aliasId, description, score⟩ := suggestion
  simp only [decode, decodeRecord, andThen_eq_ok_iff, seq_eq_ok_iff, map_eq_ok_iff, readFrom_iff,
    mk.injEq, ↓existsAndEq, and_true, and_assoc]

theorem ReadFrom.normalize {suggestion : Suggestion} (hfinite : suggestion.IsFinite)
    (h : ReadFrom record suggestion) : ReadFrom record.normalize suggestion where
  aliasId := required_normalize readsNormalForm_decodeText trivial h.aliasId
  description := required_normalize readsNormalForm_decodeText trivial h.description
  score := required_normalize readsNormalForm_decodeFloat hfinite h.score

theorem readsOnly_decode : ReadsOnly (decode dialect) IsFinite := by
  intro value suggestion hplain h
  obtain ⟨record, hrecord, hread⟩ := decode_eq_ok_iff.mp h
  obtain ⟨score, hpart, hscore⟩ := required_eq_ok_iff.mp hread.score
  exact readsOnly_decodeFloat score _ (hplain.part? hrecord hpart) hscore

theorem roundTrips (dialect : Dialect) :
    RecordRoundTrips fields toJson (decode dialect) IsFinite := by
  refine .of_readsNormalForm (Record.readsNormalForm decode_eq_ok_iff fun hfinite h ↦
    h.normalize hfinite) readsOnly_decode ?_ (fun _ ↦ rfl) ?_
  · intro suggestion _
    exact decode_eq_ok_iff.mpr ⟨_, rfl,
      { aliasId := required_named _ rfl rfl
        description := required_named _ rfl rfl
        score := required_named _ rfl rfl }⟩
  · intro suggestion _
    exact decode_eq_ok_iff.mpr ⟨_, rfl,
      { aliasId := required_ordered rfl rfl
        description := required_ordered rfl rfl
        score := required_ordered rfl rfl }⟩

end Suggestion

/-! ## Resolutions -/

theorem MatchKind.decode_toJson (kind : MatchKind) :
    MatchKind.decode .nested kind.toJson = .ok kind := by
  cases kind with
  | exact | exactStripped | fuzzy => rfl

namespace Resolution

variable {record : Record}

theorem decodeMap_captures (captures : Captures) :
    decodeMap decodeText (capturesToJson captures) = .ok captures := by
  have hfields : decodeFields decodeText (captures.mapValues .str).entries =
      .ok captures.entries := by
    refine decodeFields_eq_ok_iff.mpr (List.forall₂_map_left_iff.mpr ?_)
    exact List.forall₂_same.mpr fun _ _ ↦ ⟨rfl, rfl⟩
  exact map_eq_ok_iff.mpr ⟨_, hfields, NameMap.ofList_entries captures⟩

/-- The parts of a resolution in order. -/
def fields : Resolution → List (String × Json)
  | noMatch => [("result", .str "no_match")]
  | matched aliasId kind captures plan =>
    [("result", .str "matched"), ("alias_id", .str aliasId), ("match_kind", kind.toJson),
      ("captures", capturesToJson captures), ("plan", plan.toJson)]
  | suggestions candidates =>
    [("result", .str "suggestions"), ("candidates", .arr (candidates.map Suggestion.toJson))]

/-- Which resolution it is. -/
def tag : Resolution → Tag
  | noMatch => .noMatch
  | matched .. => .matched
  | suggestions _ => .suggestions

/-- The parameters and the scores are such as JSON has. -/
def IsNormal : Resolution → Prop
  | noMatch => True
  | matched _ _ _ plan => plan.IsNormal
  | suggestions candidates => ∀ suggestion ∈ candidates, suggestion.IsFinite

/-- The parts of the record after the first are those of the resolution. -/
inductive PartsFrom (record : Record) : Resolution → Prop where
  | noMatch : PartsFrom record .noMatch
  | matched {aliasId : String} {kind : MatchKind} {captures : Captures} {plan : Plan}
    (haliasId : record.required 1 "alias_id" decodeText = .ok aliasId)
    (hkind : record.required 2 "match_kind" (MatchKind.decode .nested) = .ok kind)
    (hcaptures : record.required 3 "captures" (decodeMap decodeText) = .ok captures)
    (hplan : record.required 4 "plan" (Plan.decode .nested) = .ok plan) :
    PartsFrom record (.matched aliasId kind captures plan)
  | suggestions {candidates : List Suggestion}
    (hcandidates : record.required 1 "candidates" (decodeList (Suggestion.decode .nested)) =
      .ok candidates) :
    PartsFrom record (.suggestions candidates)

/-- The parts of the record are those of the resolution. -/
structure ReadFrom (record : Record) (result : Resolution) : Prop where
  tag : record.required 0 "result" (decodeTag tagWords) = .ok result.tag
  parts : PartsFrom record result

theorem decodeParts_noMatch_eq_ok_iff {result : Resolution} :
    decodeParts .noMatch record.untagged.toJson = .ok result ↔
      record.Fits 1 ∧ noMatch = result := by
  have hfits : record.untagged.Fits 0 ↔ record.Fits 1 := fits_untagged_iff
  rw [← hfits]
  cases record.untagged with
  | named fields =>
    show Decoded.ok noMatch = .ok result ↔ _
    rw [Decoded.ok.injEq]
    exact (and_iff_right trivial).symm
  | ordered items =>
    cases items with
    | nil =>
      show Decoded.ok noMatch = .ok result ↔ _
      rw [Decoded.ok.injEq]
      exact (and_iff_right (Nat.le_refl 0)).symm
    | cons item items => exact iff_of_false nofun fun h ↦ Nat.not_succ_le_zero _ h.1

theorem decodeParts_untagged_eq_ok_iff {tag : Tag} {result : Resolution} :
    decodeParts tag record.untagged.toJson = .ok result ↔
      result.tag = tag ∧ record.Fits result.fields.length ∧ PartsFrom record result := by
  cases tag with
  | noMatch =>
    rw [decodeParts_noMatch_eq_ok_iff]
    constructor
    · rintro ⟨hfits, rfl⟩
      exact ⟨rfl, hfits, .noMatch⟩
    · rintro ⟨htag, hfits, hparts⟩
      cases hparts with
      | noMatch => exact ⟨hfits, rfl⟩
      | matched | suggestions => cases htag
  | matched =>
    simp only [decodeParts, decodeRecord, andThen_eq_ok_iff, ofJson_toJson_eq_ok_iff,
      fits_untagged_iff, seq_eq_ok_iff, map_eq_ok_iff, required_untagged_eq_ok_iff, ne_eq,
      String.reduceEq, not_false_eq_true, ↓existsAndEq, true_and, and_true, and_assoc]
    constructor
    · rintro ⟨hfits, aliasId, kind, captures, haliasId, hkind, hcaptures, plan, hplan, rfl⟩
      exact ⟨rfl, hfits, .matched haliasId hkind hcaptures hplan⟩
    · rintro ⟨htag, hfits, hparts⟩
      cases hparts with
      | matched haliasId hkind hcaptures hplan =>
        exact ⟨hfits, _, _, _, haliasId, hkind, hcaptures, _, hplan, rfl⟩
      | noMatch | suggestions => cases htag
  | suggestions =>
    simp only [decodeParts, decodeRecord, andThen_eq_ok_iff, ofJson_toJson_eq_ok_iff,
      fits_untagged_iff, map_eq_ok_iff, required_untagged_eq_ok_iff, ne_eq, String.reduceEq,
      not_false_eq_true, ↓existsAndEq, true_and, and_assoc]
    constructor
    · rintro ⟨hfits, candidates, hcandidates, rfl⟩
      exact ⟨rfl, hfits, .suggestions hcandidates⟩
    · rintro ⟨htag, hfits, hparts⟩
      cases hparts with
      | suggestions hcandidates => exact ⟨hfits, _, hcandidates, rfl⟩
      | noMatch | matched => cases htag

theorem decode_toJson_eq_ok_iff {result : Resolution} :
    decode record.toJson = .ok result ↔
      ∃ tag, record.required 0 "result" (decodeTag tagWords) = .ok tag ∧
        decodeParts tag record.untagged.toJson = .ok result := by
  cases record with
  | named fields => exact andThen_eq_ok_iff
  | ordered items =>
    cases items with
    | nil => exact iff_of_false nofun fun ⟨_, h, _⟩ ↦ nomatch h
    | cons first rest =>
      have hfirst : ∀ tag, (ordered (first :: rest)).required 0 "result" (decodeTag tagWords) =
          .ok tag ↔ decodeTag tagWords first = .ok tag := fun tag ↦ under_eq_ok_iff
      simp only [hfirst]
      exact andThen_eq_ok_iff

/-- A resolution is read like one record whose first part is the tag. -/
theorem decode_eq_ok_iff {value : Json} {result : Resolution} :
    decode value = .ok result ↔
      ∃ record, ofJson .nested result.fields.length value = .ok record ∧
        ReadFrom record result := by
  constructor
  · intro h
    have hrecord : ∃ record : Record, value = record.toJson := by
      cases value with
      | obj fields => exact ⟨.named fields, rfl⟩
      | arr items => exact ⟨.ordered items, rfl⟩
      | null | bool | int | float | char | str => cases h
    obtain ⟨record, rfl⟩ := hrecord
    obtain ⟨tag, htag, hparts⟩ := decode_toJson_eq_ok_iff.mp h
    obtain ⟨rfl, hfits, hparts⟩ := decodeParts_untagged_eq_ok_iff.mp hparts
    exact ⟨record, ofJson_toJson_eq_ok_iff.mpr ⟨rfl, hfits⟩, htag, hparts⟩
  · rintro ⟨record, hrecord, htag, hparts⟩
    obtain rfl := eq_toJson_of_ofJson hrecord
    obtain ⟨-, hfits⟩ := ofJson_toJson_eq_ok_iff.mp hrecord
    exact decode_toJson_eq_ok_iff.mpr
      ⟨_, htag, decodeParts_untagged_eq_ok_iff.mpr ⟨rfl, hfits, hparts⟩⟩

theorem ReadFrom.normalize {result : Resolution} (hnormal : result.IsNormal)
    (h : ReadFrom record result) : ReadFrom record.normalize result where
  tag := required_normalize (readsNormalForm_decodeTag tagWords) trivial h.tag
  parts := by
    cases h.parts with
    | noMatch => exact .noMatch
    | matched haliasId hkind hcaptures hplan =>
      exact .matched (required_normalize readsNormalForm_decodeText trivial haliasId)
        (required_normalize (readsNormalForm_decodeWord MatchKind.words) trivial hkind)
        (required_normalize readsNormalForm_decodeText.decodeMap trivial hcaptures)
        (required_normalize (Plan.roundTrips .nested).readsNormalForm hnormal hplan)
    | suggestions hcandidates =>
      exact .suggestions (required_normalize
        (Suggestion.roundTrips .nested).readsNormalForm.decodeList hnormal hcandidates)

theorem readsOnly_decode : ReadsOnly decode IsNormal := by
  intro value result hplain h
  obtain ⟨record, hrecord, hread⟩ := decode_eq_ok_iff.mp h
  cases hread.parts with
  | noMatch => exact trivial
  | matched _ _ _ hplan =>
    obtain ⟨part, -, hplan⟩ := required_eq_ok_iff.mp hplan
    exact Plan.isNormal_of_decode hplan
  | suggestions hcandidates =>
    obtain ⟨part, hpart, hcandidates⟩ := required_eq_ok_iff.mp hcandidates
    exact Suggestion.readsOnly_decode.decodeList part _ (hplain.part? hrecord hpart) hcandidates

theorem readFrom_named {result : Resolution} (hnormal : result.IsNormal) :
    ReadFrom (.named result.fields) result := by
  cases result with
  | noMatch => exact ⟨required_named _ rfl rfl, .noMatch⟩
  | matched aliasId kind captures plan =>
    exact ⟨required_named _ rfl rfl, .matched (required_named _ rfl rfl)
      (required_named _ rfl kind.decode_toJson) (required_named _ rfl (decodeMap_captures captures))
      (required_named _ rfl ((Plan.roundTrips .nested).read_written plan hnormal))⟩
  | suggestions candidates =>
    exact ⟨required_named _ rfl rfl, .suggestions (required_named _ rfl (decodeList_map
      fun _ hmem ↦ (Suggestion.roundTrips .nested).read_written _ (hnormal _ hmem)))⟩

theorem readFrom_ordered {result : Resolution} (hnormal : result.IsNormal) :
    ReadFrom (.ordered (result.fields.map (·.2))) result := by
  cases result with
  | noMatch => exact ⟨required_ordered rfl rfl, .noMatch⟩
  | matched aliasId kind captures plan =>
    exact ⟨required_ordered rfl rfl, .matched (required_ordered rfl rfl)
      (required_ordered rfl kind.decode_toJson)
      (required_ordered rfl (decodeMap_captures captures))
      (required_ordered rfl ((Plan.roundTrips .nested).read_written plan hnormal))⟩
  | suggestions candidates =>
    exact ⟨required_ordered rfl rfl, .suggestions (required_ordered rfl (decodeList_map
      fun _ hmem ↦ (Suggestion.roundTrips .nested).read_written _ (hnormal _ hmem)))⟩

theorem toJson_eq (result : Resolution) :
    result.toJson = .obj (result.fields.filter fun field ↦ !field.2.isNull) := by
  cases result with
  | noMatch | matched | suggestions => rfl

theorem decode_toJson {result : Resolution} (hnormal : result.IsNormal) :
    decode result.toJson = .ok result := by
  have hfields : result.toJson = .obj result.fields := by
    cases result with
    | noMatch | matched | suggestions => rfl
  rw [hfields]
  exact decode_eq_ok_iff.mpr ⟨_, rfl, readFrom_named hnormal⟩

theorem decode_ordered {result : Resolution} (hnormal : result.IsNormal) :
    decode (.arr (result.fields.map (·.2))) = .ok result := by
  have hfits : (ordered (result.fields.map (·.2))).Fits result.fields.length :=
    (List.length_map _).le
  exact decode_eq_ok_iff.mpr
    ⟨_, ofJson_toJson_eq_ok_iff.mpr ⟨rfl, hfits⟩, readFrom_ordered hnormal⟩

theorem roundTrips : RecordRoundTrips fields toJson decode IsNormal :=
  .of_readsNormalForm (Record.readsNormalForm decode_eq_ok_iff fun hnormal h ↦ h.normalize hnormal)
    readsOnly_decode (fun _ ↦ decode_toJson) toJson_eq fun _ ↦ decode_ordered

end Resolution

/-! ## All written forms -/

/-- **What is written is read back.** An alias, an action, a scope, a call, a plan, a suggestion and
a resolution come back from their written forms and from the arrays of all their parts, with the
fields sorted or not, and whatever JSON value one of them was read from, it comes back from the form
that it is then written in. The parameters have to be JSON values in ascending order, which every
parameter is that was read, and the scores finite. -/
theorem forms_roundTrip (dialect : Dialect) :
    RecordRoundTrips Alias.fields Alias.toJson (Alias.decode dialect) Alias.IsNormal ∧
      RecordRoundTrips Action.fields Action.toJson (Action.decode dialect) Action.IsNormal ∧
      RecordRoundTrips Scope.fields Scope.toJson (Scope.decode dialect) (fun _ ↦ True) ∧
      RecordRoundTrips Invocation.fields Invocation.toJson (Invocation.decode dialect)
        Invocation.IsNormal ∧
      RecordRoundTrips Plan.fields Plan.toJson (Plan.decode dialect) Plan.IsNormal ∧
      RecordRoundTrips Suggestion.fields Suggestion.toJson (Suggestion.decode dialect)
        Suggestion.IsFinite ∧
      RecordRoundTrips Resolution.fields Resolution.toJson Resolution.decode
        Resolution.IsNormal :=
  ⟨Alias.roundTrips dialect, Action.roundTrips dialect, Scope.roundTrips dialect,
    Invocation.roundTrips dialect, Plan.roundTrips dialect, Suggestion.roundTrips dialect,
    Resolution.roundTrips⟩

/-- A match with captures and with parameters inside parameters, whose fields get sorted on the
way. -/
theorem forms_roundTrip_of_nested_params :
    let item : Json := .obj [("name", .str "milk"), ("tags", .arr [.null, .int 2])]
    let call : Invocation :=
      ⟨"list.add", ⟨[("item", item), ("urgent", .bool true)], by decide⟩, none⟩
    let result : Resolution := .matched "add" .exactStripped ⟨[("thing", "milk")], by decide⟩
      ⟨[call], ⟨["list.add"], by decide⟩⟩
    result.IsNormal ∧ result.toJson.normalize ≠ result.toJson ∧
      Resolution.decode result.toJson.normalize = .ok result := by
  intro item call result
  have hitem : item.IsNormal := .obj (by decide) (by simp [IsNormal.str, IsNormal.arr,
    IsNormal.null, IsNormal.int])
  have hparams : (Json.obj call.params.entries).IsNormal :=
    .obj (by decide) (by simp [call, hitem, IsNormal.bool])
  have hnormal : result.IsNormal := List.forall_mem_singleton.mpr hparams
  -- the tag is written first and has not the first name
  have hsorted : result.toJson.normalize ≠ result.toJson := by
    intro heq
    cases isNormal_iff_normalize_eq.mpr heq with
    | obj hascending => exact absurd hascending (by decide)
  exact ⟨hnormal, hsorted, (forms_roundTrip .json).2.2.2.2.2.2.read_sorted result hnormal⟩

end Phrasebook
