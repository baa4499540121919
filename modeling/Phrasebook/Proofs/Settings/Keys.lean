import Mathlib.Data.List.Induction
import Phrasebook.Proofs.Settings.Merging

/-!
# Settings by key

A setting has a key: the section that it belongs to, its name in it, and how its value is read. A
document sets some of them. If all that it sets can be read, then each setting is what the document
says of its key or else the default (`decode_eq`), and of several documents the last one that sets
a key decides about it (`value?_mergeAll`).
-/

namespace Phrasebook.Settings

open Decoded

/-! ## Keys -/

/-- The keys of settings, by the type of the value. -/
inductive Key : Type → Type where
  | storePath : Key String
  | refreshSeconds : Key Nat
  | serveStaleOnError : Key Bool
  | maxSuggestions : Key Nat
  | resolutionLog : Key (Option String)
  | format : Key (Option OutputFormat)
  | color : Key Bool

namespace Key

variable {α : Type}

/-- The section that the setting belongs to. -/
def table : Key α → String
  | storePath => "store"
  | refreshSeconds | serveStaleOnError | maxSuggestions => "resolver"
  | resolutionLog => "logging"
  | format | color => "output"

/-- The name of the setting in its section. -/
def name : Key α → String
  | storePath => "path"
  | refreshSeconds => "refresh_seconds"
  | serveStaleOnError => "serve_stale_on_error"
  | maxSuggestions => "max_suggestions"
  | resolutionLog => "resolution_log"
  | format => "format"
  | color => "color"

/-- Reads a value of the setting. -/
def decode : Key α → Json → Decoded α
  | storePath => Json.decodeText
  | refreshSeconds | maxSuggestions => Json.decodeNat UInt64.size
  | serveStaleOnError | color => Json.decodeBool
  | resolutionLog => Json.decodeOption Json.decodeText
  | format => Json.decodeOption (Json.decodeWord .settings OutputFormat.words)

/-- The setting. -/
def get : Key α → Settings → α
  | storePath, settings => settings.store.path
  | refreshSeconds, settings => settings.resolver.refreshSeconds
  | serveStaleOnError, settings => settings.resolver.serveStaleOnError
  | maxSuggestions, settings => settings.resolver.maxSuggestions
  | resolutionLog, settings => settings.logging.resolutionLog
  | format, settings => settings.output.format
  | color, settings => settings.output.color

/-- The value that a document sets the key to, if it does. -/
def value? (key : Key α) (document : Json) : Option α :=
  (valueAt document key.table key.name).bind fun value ↦ (key.decode value).toOption

theorem table_mem (key : Key α) : key.table ∈ sectionNames := by
  cases key <;> decide

/-- No setting has a table for its value. -/
theorem decode_obj_ne_ok (key : Key α) (fields : List (String × Json)) (a : α) :
    key.decode (.obj fields) ≠ .ok a := by
  cases key with
  | storePath | refreshSeconds | serveStaleOnError | maxSuggestions | resolutionLog | color =>
    exact nofun
  | format =>
    intro h
    obtain ⟨format, hformat, -⟩ := Decoded.map_eq_ok_iff.mp h
    obtain ⟨word, payload, -, haccepts, -⟩ := Json.decodeWord_obj_eq_ok_iff.mp hformat
    exact Bool.false_ne_true haccepts

/-- The value is one of the setting. -/
def Reads (key : Key α) (value : Json) : Prop := ∃ a, key.decode value = .ok a

theorem Reads.merge_eq {key : Key α} {value : Json} (h : key.Reads value) (under : Json) :
    merge under value = value := by
  cases value with
  | obj fields =>
    obtain ⟨a, ha⟩ := h
    exact absurd ha (key.decode_obj_ne_ok fields a)
  | null | bool | int | float | char | str | arr => rfl

end Key

/-! ## Well-typed documents -/

/-- The document is a table over the sections, and what it sets a key to is a value of the setting.
It need not set any. -/
structure WellTyped (document : Json) : Prop where
  tabular : IsTabular document
  reads : ∀ {α : Type} (key : Key α), ∀ value ∈ valueAt document key.table key.name,
    key.Reads value

variable {α : Type}

theorem wellTyped_nil : WellTyped (.obj []) where
  tabular := isTabular_nil
  reads _ := nofun

theorem wellTyped_section {table : String} {entries : List (String × Json)}
    (hdistinct : Distinct entries)
    (h : ∀ {α : Type} (key : Key α),
      ∀ value ∈ valueAt (.obj [(table, .obj entries)]) key.table key.name, key.Reads value) :
    WellTyped (.obj [(table, .obj entries)]) where
  tabular := isTabular_of_forall (List.nodup_cons.mpr ⟨List.not_mem_nil, List.nodup_nil⟩)
    (List.forall_mem_singleton.mpr ⟨entries, rfl, hdistinct⟩)
  reads := h

theorem WellTyped.merge {lower upper : Json} (hlower : WellTyped lower) (hupper : WellTyped upper) :
    WellTyped (merge lower upper) where
  tabular := hlower.tabular.merge hupper.tabular
  reads key := by
    rw [valueAt_merge hlower.tabular hupper.tabular key.table_mem]
    refine forall_mem_overlay (fun under value _ hvalue ↦ ?_) (hlower.reads key) (hupper.reads key)
    rw [hvalue.merge_eq]
    exact hvalue

/-- The upper document decides about the keys that it sets. -/
theorem value?_merge {lower upper : Json} (hlower : WellTyped lower) (hupper : WellTyped upper)
    (key : Key α) :
    key.value? (merge lower upper) = (key.value? upper).or (key.value? lower) := by
  simp only [Key.value?, valueAt_merge hlower.tabular hupper.tabular key.table_mem]
  cases habove : valueAt upper key.table key.name with
  | none => rw [overlay_none]; rfl
  | some value =>
    have hvalue : key.Reads value := hupper.reads key value habove
    have hoverlay : overlay (valueAt lower key.table key.name) (some value) = some value := by
      cases valueAt lower key.table key.name with
      | none => rfl
      | some under => exact congrArg some (hvalue.merge_eq under)
    obtain ⟨a, ha⟩ := hvalue
    rw [hoverlay, Option.bind_some, ha]
    rfl

/-- **The last document that sets a key decides about it.** -/
theorem value?_mergeAll {documents : List Json} (h : ∀ document ∈ documents, WellTyped document) :
    WellTyped (mergeAll documents) ∧
      ∀ {α : Type} (key : Key α), key.value? (mergeAll documents) =
        documents.reverse.findSome? key.value? := by
  induction documents using List.reverseRecOn with
  | nil => exact ⟨wellTyped_nil, fun _ ↦ rfl⟩
  | append_singleton documents document ih =>
    obtain ⟨hdocuments, hdocument⟩ := List.forall_mem_append.mp h
    obtain ⟨hlower, hvalues⟩ := ih hdocuments
    have hupper : WellTyped document := hdocument document (List.mem_singleton_self document)
    rw [mergeAll, List.foldl_append, List.foldl_cons, List.foldl_nil, ← mergeAll]
    refine ⟨hlower.merge hupper, fun key ↦ ?_⟩
    rw [value?_merge hlower hupper, hvalues, List.reverse_append, List.reverse_singleton,
      List.singleton_append, List.findSome?_cons]
    cases key.value? document <;> rfl

/-! ## Reading documents -/

/-- The settings with the given values. -/
def ofKeys (value : ∀ {α : Type}, Key α → α) : Settings where
  store := ⟨value .storePath⟩
  resolver := ⟨value .refreshSeconds, value .serveStaleOnError, value .maxSuggestions⟩
  logging := ⟨value .resolutionLog⟩
  output := ⟨value .format, value .color⟩

theorem get_ofKeys (value : ∀ {α : Type}, Key α → α) (key : Key α) :
    key.get (ofKeys value) = value key := by
  cases key <;> rfl

theorem withDefault_key {document : Json} (h : WellTyped document) (key : Key α) (index : ℕ) :
    (Record.named (entriesAt document key.table)).withDefault index key.name (key.get default)
      key.decode = .ok ((key.value? document).getD (key.get default)) := by
  have hpart : (Record.named (entriesAt document key.table)).part? index key.name =
      .ok (valueAt document key.table key.name) :=
    Record.part?_named_of_nodup (h.tabular.distinct_entriesAt key.table_mem)
  rw [Record.withDefault_eq_ok_iff, hpart, Key.value?]
  cases hvalue : valueAt document key.table key.name with
  | none => exact Or.inl ⟨rfl, rfl⟩
  | some value =>
    obtain ⟨a, ha⟩ := h.reads key value hvalue
    exact Or.inr ⟨value, rfl, by rw [Option.bind_some, ha]; rfl⟩

/-- A section that is not there is read like an empty one. -/
theorem withDefault_section {fields : List (String × Json)} (h : IsTabular (.obj fields))
    (table : String) (htable : table ∈ sectionNames) {decode : Json → Decoded α} {absent a : α}
    (habsent : decode (.obj []) = .ok absent)
    (hread : decode (.obj (entriesAt (.obj fields) table)) = .ok a) (index : ℕ) :
    (Record.named fields).withDefault index table absent decode = .ok a := by
  obtain ⟨_, ⟨⟩, hdistinct, hsections⟩ := h
  have hpart : (Record.named fields).part? index table = .ok (fields.lookup table) :=
    Record.part?_named_of_nodup hdistinct
  rw [Record.withDefault_eq_ok_iff, hpart]
  rcases entriesAt_cases (hsections table htable) with ⟨hnone, hempty⟩ | ⟨hsome, -⟩
  · rw [hempty, habsent] at hread
    exact Or.inl ⟨congrArg Decoded.ok hnone, Decoded.ok.inj hread⟩
  · exact Or.inr ⟨_, congrArg Decoded.ok hsome, hread⟩

/-- The settings that a document amounts to. -/
def settingsIn (document : Json) : Settings :=
  ofKeys fun key ↦ (key.value? document).getD (key.get default)

theorem get_settingsIn (document : Json) (key : Key α) :
    key.get (settingsIn document) = (key.value? document).getD (key.get default) :=
  get_ofKeys _ key

/-- **Each setting is what the document says of its key, or else the default.** -/
theorem decode_eq {document : Json} (h : WellTyped document) :
    decode .settings document = .ok (settingsIn document) := by
  obtain ⟨fields, rfl, -⟩ := id h.tabular
  have hkey {α : Type} := @withDefault_key α _ h
  have hstore : (Record.named fields).withDefault 0 "store" {} (Store.decode .settings) =
      .ok (settingsIn (.obj fields)).store := by
    refine withDefault_section h.tabular "store" (by decide) ?_ ?_ 0
    · rfl
    · exact map_eq_ok_iff.mpr ⟨_, hkey .storePath 0, rfl⟩
  have hresolver : (Record.named fields).withDefault 1 "resolver" {} (Resolver.decode .settings) =
      .ok (settingsIn (.obj fields)).resolver := by
    refine withDefault_section h.tabular "resolver" (by decide) ?_ ?_ 1
    · rfl
    · exact seq_eq_ok_iff.mpr ⟨_, seq_eq_ok_iff.mpr ⟨_, map_eq_ok_iff.mpr
        ⟨_, hkey .refreshSeconds 0, rfl⟩, _, hkey .serveStaleOnError 1, rfl⟩,
        _, hkey .maxSuggestions 2, rfl⟩
  have hlogging : (Record.named fields).withDefault 2 "logging" {} (Logging.decode .settings) =
      .ok (settingsIn (.obj fields)).logging := by
    refine withDefault_section h.tabular "logging" (by decide) ?_ ?_ 2
    · rfl
    · exact map_eq_ok_iff.mpr ⟨_, hkey .resolutionLog 0, rfl⟩
  have houtput : (Record.named fields).withDefault 3 "output" {} (Output.decode .settings) =
      .ok (settingsIn (.obj fields)).output := by
    refine withDefault_section h.tabular "output" (by decide) ?_ ?_ 3
    · rfl
    · exact seq_eq_ok_iff.mpr
        ⟨_, map_eq_ok_iff.mpr ⟨_, hkey .format 0, rfl⟩, _, hkey .color 1, rfl⟩
  show Settings.mk <$> (Record.named fields).withDefault 0 "store" {} (Store.decode .settings)
    <*> (Record.named fields).withDefault 1 "resolver" {} (Resolver.decode .settings)
    <*> (Record.named fields).withDefault 2 "logging" {} (Logging.decode .settings)
    <*> (Record.named fields).withDefault 3 "output" {} (Output.decode .settings) = _
  rw [hstore, hresolver, hlogging, houtput]
  rfl

/-- The written form of the default settings sets every key. -/
theorem value?_default (key : Key α) : key.value? default.toJson = some (key.get default) := by
  cases key with
  | refreshSeconds =>
    have hvalue : valueAt default.toJson "resolver" "refresh_seconds" = some (.int (60 : Nat)) :=
      rfl
    show (valueAt default.toJson "resolver" "refresh_seconds").bind _ = _
    rw [hvalue, Option.bind_some]
    exact congrArg toOption (Json.decodeNat_natCast (by decide))
  | maxSuggestions =>
    have hvalue : valueAt default.toJson "resolver" "max_suggestions" = some (.int (3 : Nat)) :=
      rfl
    show (valueAt default.toJson "resolver" "max_suggestions").bind _ = _
    rw [hvalue, Option.bind_some]
    exact congrArg toOption (Json.decodeNat_natCast (by decide))
  | storePath | serveStaleOnError | resolutionLog | format | color => rfl

theorem wellTyped_default : WellTyped default.toJson where
  tabular := by
    refine isTabular_of_forall (by decide) ?_
    simp [IsTable, Distinct]
  reads key value hvalue := by
    have hread := value?_default key
    rw [Key.value?, hvalue, Option.bind_some] at hread
    cases hdecode : key.decode value with
    | ok a => exact ⟨a, hdecode⟩
    | fault => rw [hdecode] at hread; cases hread

end Phrasebook.Settings
