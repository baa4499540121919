import Phrasebook.AliasFile
import Phrasebook.Proofs.Alias.Form

/-!
# The shapes of alias files

An array in a JSON document can be meant in three ways: as a list of aliases, as an alias with its
parts in order, and as the object around the list with its one part. No value is both an alias and
a list of aliases, because an alias in order has its phrase second and a text is no alias. Hence at
most one of the readings of a document succeeds, the empty array apart, which is an empty phrasebook
either way, and it does not matter that a document is first taken for a list.
-/

namespace Phrasebook

open Decoded Record

variable {dialect : Dialect}

/-! ## Aliases and lists of them -/

namespace Alias

theorem decode_ne_ok_of_text {value : Json} {s : String} (h : Json.decodeText value = .ok s)
    (a : Alias) : decode dialect value ≠ .ok a := by
  intro hdecode
  obtain ⟨record, hrecord, -⟩ := decode_eq_ok_iff.mp hdecode
  rcases Json.decodeText_eq_ok_iff.mp h with rfl | ⟨c, rfl, -⟩
  · cases hrecord
  · cases hrecord

/-- No list of aliases is an alias as well. -/
theorem decode_ne_ok_of_list {value : Json} {aliases : List Alias}
    (h : AliasFile.decodeList dialect value = .ok aliases) (a : Alias) :
    decode dialect value ≠ .ok a := by
  intro hdecode
  obtain ⟨items, rfl, -⟩ := Json.decodeList_eq_ok_iff.mp h
  obtain ⟨record, hrecord, hread⟩ := decode_eq_ok_iff.mp hdecode
  obtain rfl := eq_ordered_of_ofJson_arr hrecord
  obtain ⟨phrase, hphrase, htext⟩ := required_eq_ok_iff.mp hread.pattern
  -- the second item is the phrase of the one reading and an alias of the other
  have hitem : phrase ∈ items := List.mem_of_getElem? (Decoded.ok.inj hphrase)
  obtain ⟨b, hb⟩ := Json.forall_mem_items_of_decodeList h phrase hitem
  exact decode_ne_ok_of_text htext b hb

end Alias

/-! ## Documents -/

namespace AliasFile

theorem decodeTable_eq_ok_iff {document : Json} {aliases : List Alias} :
    decodeTable dialect document = .ok aliases ↔
      ∃ record, Record.ofJson dialect 1 document = .ok record ∧
        record.withDefault 0 "alias" [] (decodeList dialect) = .ok aliases :=
  andThen_eq_ok_iff

/-- Only the empty array is a list and an object with its part in order. -/
theorem eq_nil_of_list_of_table {document : Json} {listed tabled : List Alias}
    (hlist : decodeList dialect document = .ok listed)
    (htable : decodeTable dialect document = .ok tabled) :
    document = .arr [] ∧ listed = [] ∧ tabled = [] := by
  obtain ⟨items, rfl, hitems⟩ := Json.decodeList_eq_ok_iff.mp hlist
  obtain ⟨record, hrecord, hread⟩ := decodeTable_eq_ok_iff.mp htable
  obtain rfl := eq_ordered_of_ofJson_arr hrecord
  rcases withDefault_eq_ok_iff.mp hread with ⟨hpart, rfl⟩ | ⟨value, hpart, hvalue⟩
  · obtain rfl : items = [] :=
      List.eq_nil_of_length_eq_zero
        (Nat.le_zero.mp (List.getElem?_eq_none_iff.mp (Decoded.ok.inj hpart)))
    exact ⟨rfl, List.forall₂_nil_left_iff.mp hitems, rfl⟩
  · -- the first item would be an alias of the one reading and the list of the other
    have hitem : value ∈ items := List.mem_of_getElem? (Decoded.ok.inj hpart)
    obtain ⟨a, ha⟩ := Json.forall_mem_items_of_decodeList hlist value hitem
    exact absurd ha (Alias.decode_ne_ok_of_list hvalue a)

theorem decodeDocument_eq_ok_iff {document : Json} {aliases : List Alias} :
    decodeDocument document = .ok aliases ↔
      decodeList .nested document = .ok aliases ∨ decodeTable .nested document = .ok aliases := by
  rw [decodeDocument]
  cases hlist : decodeList .nested document with
  | ok listed =>
    refine (or_iff_left_of_imp fun htable ↦ ?_).symm
    obtain ⟨-, rfl, rfl⟩ := eq_nil_of_list_of_table hlist htable
    rfl
  | fault e => exact (or_iff_right fun h ↦ nomatch h).symm

/-- To take a document for an object first comes to the same. -/
theorem toOption_decodeDocument (document : Json) :
    (decodeDocument document).toOption =
      (decodeTable .nested document).toOption.or (decodeList .nested document).toOption := by
  cases htable : decodeTable .nested document with
  | ok tabled =>
    rw [decodeDocument_eq_ok_iff.mpr (Or.inr htable)]
    rfl
  | fault e =>
    rw [decodeDocument, htable]
    cases decodeList .nested document <;> rfl

theorem isNormal_of_decodeList {document : Json} {aliases : List Alias}
    (h : decodeList dialect document = .ok aliases) : ∀ a ∈ aliases, a.IsNormal :=
  Json.forall_mem_of_decodeList h fun _ _ ↦ Alias.isNormal_of_decode

theorem isNormal_of_decodeTable {document : Json} {aliases : List Alias}
    (h : decodeTable dialect document = .ok aliases) : ∀ a ∈ aliases, a.IsNormal := by
  obtain ⟨record, -, hread⟩ := decodeTable_eq_ok_iff.mp h
  rcases withDefault_eq_ok_iff.mp hread with ⟨-, rfl⟩ | ⟨value, -, hvalue⟩
  · exact List.forall_mem_nil _
  · exact isNormal_of_decodeList hvalue

/-! ## What is written reads back -/

/-- The aliases in their written form, one after the other. -/
def written (aliases : List Alias) : Json := .arr (aliases.map Alias.toJson)

/-- The documents that hold some aliases: their list, an object with the list under `alias` among
other fields, and that object with its one part in order. -/
inductive Writes (aliases : List Alias) : Json → Prop where
  | list : Writes aliases (written aliases)
  | table {before after : List (String × Json)} (hbefore : ∀ field ∈ before, field.1 ≠ "alias")
    (hafter : ∀ field ∈ after, field.1 ≠ "alias") :
    Writes aliases (.obj (before ++ ("alias", written aliases) :: after))
  | ordered : Writes aliases (.arr [written aliases])

section Written

variable {aliases : List Alias} (haliases : ∀ a ∈ aliases, a.IsNormal)
include haliases

theorem decodeList_written : decodeList dialect (written aliases) = .ok aliases :=
  Json.decodeList_map fun a ha ↦ Alias.decode_toJson (haliases a ha)

theorem decodeTable_written {before after : List (String × Json)}
    (hbefore : ∀ field ∈ before, field.1 ≠ "alias") (hafter : ∀ field ∈ after, field.1 ≠ "alias") :
    decodeTable dialect (.obj (before ++ ("alias", written aliases) :: after)) = .ok aliases := by
  have hnone : ∀ fields : List (String × Json), (∀ field ∈ fields, field.1 ≠ "alias") →
      (fields.filter fun field ↦ field.1 == "alias") = [] := fun fields hfields ↦
    List.filter_eq_nil_iff.mpr fun field hfield ↦ by simpa using hfields field hfield
  refine decodeTable_eq_ok_iff.mpr ⟨_, rfl, ?_⟩
  refine withDefault_named (written aliases) ?_ (decodeList_written haliases)
  simp [hnone before hbefore, hnone after hafter]

theorem decodeTable_ordered_written :
    decodeTable dialect (.arr [written aliases]) = .ok aliases := by
  refine decodeTable_eq_ok_iff.mpr ⟨.ordered [written aliases], rfl, ?_⟩
  exact withDefault_eq_ok_iff.mpr (Or.inr ⟨written aliases, rfl, decodeList_written haliases⟩)

theorem decodeDocument_of_writes {document : Json} (h : Writes aliases document) :
    decodeDocument document = .ok aliases := by
  rw [decodeDocument_eq_ok_iff]
  cases h with
  | list => exact Or.inl (decodeList_written haliases)
  | table hbefore hafter => exact Or.inr (decodeTable_written haliases hbefore hafter)
  | ordered => exact Or.inr (decodeTable_ordered_written haliases)

end Written

/-- Each of the shapes gives the aliases that were written. A document that is both a list and an
object is the same either way, so the outcome does not depend on which is tried first. The aliases
have to be such as documents can hold, and all that are read are such. -/
theorem decodeDocument_shapes (document : Json) :
    (∀ aliases, (∀ a ∈ aliases, a.IsNormal) → Writes aliases document →
      decodeDocument document = .ok aliases) ∧
    (∀ listed tabled, decodeList .nested document = .ok listed →
      decodeTable .nested document = .ok tabled → listed = tabled) ∧
    (decodeDocument document).toOption =
      (decodeTable .nested document).toOption.or (decodeList .nested document).toOption ∧
    (∀ aliases, decodeDocument document = .ok aliases → ∀ a ∈ aliases, a.IsNormal) ∧
    ∀ text, Json.read? text = some document →
      parse? .json text = (decodeDocument document).toOption := by
  refine ⟨fun aliases haliases ↦ decodeDocument_of_writes haliases, ?_, ?_, ?_, ?_⟩
  · intro listed tabled hlist htable
    obtain ⟨-, rfl, rfl⟩ := eq_nil_of_list_of_table hlist htable
    rfl
  · exact toOption_decodeDocument document
  · intro aliases h
    rcases decodeDocument_eq_ok_iff.mp h with hlist | htable
    · exact isNormal_of_decodeList hlist
    · exact isNormal_of_decodeTable htable
  · intro text htext
    rw [parse?, htext, Option.bind_some]

/-- An object with a repeated unknown key, and parameters that nest. -/
theorem decodeDocument_shapes_of_unknown_keys :
    (Json.obj [("page", .obj [("name", .str "home"), ("pin", .null)])]).IsNormal ∧
    decodeDocument (.obj [
      ("version", .int 1),
      ("alias", .arr [.obj [
        ("id", .str "home"), ("pattern", .str "go home"), ("layer", .str "public"),
        ("context", .arr []), ("priority", .int (-2)), ("tools_required", .arr [.str "pages"]),
        ("actions", .arr [.obj [
          ("tool", .str "pages"),
          ("params", .obj [("page", .obj [("name", .str "home"), ("pin", .null)])])]]),
        ("enabled", .bool true)]]),
      ("version", .null)]) =
    .ok [{
      id := some "home", pattern := "go home", priority := -2,
      toolsRequired := NameSet.ofList ["pages"]
      actions := [{
        tool := "pages"
        params := NameMap.ofList
          [("page", .obj [("name", .str "home"), ("pin", .null)])] }] }] := by
  have hparams : (Json.obj [("page", .obj [("name", .str "home"), ("pin", .null)])]).IsNormal :=
    Json.isNormal_normalize (.obj [("page", .obj [("name", .str "home"), ("pin", .null)])])
  refine ⟨hparams, (decodeDocument_shapes _).1 _ ?_ ?_⟩
  · exact List.forall_mem_singleton.mpr (List.forall_mem_singleton.mpr hparams)
  · exact @Writes.table _ [("version", .int 1)] [("version", .null)] (by simp) (by simp)

end AliasFile

end Phrasebook
