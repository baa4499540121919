import Mathlib
import Phrasebook.Proofs.Settings.Keys
import Phrasebook.Proofs.Settings.Loading

/-!
# Which source decides about a setting

The environment decides about the keys that it sets, the file that is named explicitly about those
that remain, then the file of the project, then that of the user, and at last the defaults. This
holds key by key: a source that sets one key of a section leaves the others to weaker sources.
-/

namespace Phrasebook.Settings

variable {tree : FileTree} {environment : Environment} {explicit : Option String}

/-- Settings are combined by laying the documents over the defaults. -/
theorem combine_eq {files : List Json} {given : Json}
    (h : ∀ document ∈ files ++ [given], WellTyped document) :
    ∃ settings, combine files given = .ok settings ∧
      ∀ {α : Type} (key : Key α), key.get settings =
        ((files ++ [given]).reverse.findSome? key.value?).getD (key.get default) := by
  have hall : ∀ document ∈ default.toJson :: (files ++ [given]), WellTyped document :=
    List.forall_mem_cons.mpr ⟨wellTyped_default, h⟩
  obtain ⟨hmerged, hvalues⟩ := value?_mergeAll hall
  refine ⟨settingsIn (mergeAll (default.toJson :: (files ++ [given]))), ?_, fun key ↦ ?_⟩
  · rw [combine, List.cons_append, decode_eq hmerged]
  · rw [get_settingsIn, hvalues, List.reverse_cons, List.findSome?_append,
      List.findSome?_singleton, value?_default]
    cases (files ++ [given]).reverse.findSome? key.value? <;> rfl

variable {α β : Type}

theorem findSome?_toList (f : α → Option β) (a : Option α) : a.toList.findSome? f = a.bind f := by
  cases a with
  | none => rfl
  | some a => rw [Option.toList_some, List.findSome?_singleton, Option.bind_some]

theorem reverse_toList (a : Option α) : a.toList.reverse = a.toList := by
  cases a <;> rfl

theorem forall₂_toList {R : α → β → Prop} {a : Option α} {b : Option β} (h : Option.Rel R a b) :
    List.Forall₂ R a.toList b.toList := by
  cases h with
  | none => exact List.Forall₂.nil
  | some h => exact List.Forall₂.cons h List.Forall₂.nil

/-- **The strongest source that sets a key decides about it.** Of the two files for the project the
first that is there is the source. -/
theorem load_precedence {user project named : Option Json} {given : Json}
    (hexplicit : ∀ path ∈ explicit, tree.leads path = true)
    (huser : Option.Rel (Reads tree) (environment.globalPath?.filter tree.leads) user)
    (hproject : Option.Rel (Reads tree) (projectPaths.find? tree.leads) project)
    (hnamed : Option.Rel (Reads tree) explicit named)
    (hgiven : environment.settings? = some given)
    (htyped : ∀ document ∈ user.toList ++ project.toList ++ named.toList ++ [given],
      WellTyped document) :
    ∃ settings, (load environment explicit : StateM FileTree _).run tree = (.ok settings, tree) ∧
      ∀ {α : Type} (key : Key α), key.get settings =
        ((key.value? given).or ((named.bind key.value?).or
          ((project.bind key.value?).or (user.bind key.value?)))).getD (key.get default) := by
  have hfiles : List.Forall₂ (Reads tree) (sources tree environment explicit)
      (user.toList ++ project.toList ++ named.toList) :=
    List.rel_append (List.rel_append (forall₂_toList huser) (forall₂_toList hproject))
      (forall₂_toList hnamed)
  obtain ⟨settings, hsettings, hvalues⟩ := combine_eq htyped
  refine ⟨settings, run_load_eq_ok_iff.mpr ⟨hexplicit, _, given, hfiles, hgiven, hsettings⟩,
    fun key ↦ ?_⟩
  rw [hvalues]
  simp only [List.reverse_append, List.reverse_singleton, reverse_toList, List.findSome?_append,
    List.findSome?_singleton, findSome?_toList]

/-- Files with settings in three places, and a second one for the project. -/
def layeredTree : FileTree where
  nodes := [(["home"], .directory), (["home", ".config"], .directory),
    (["home", ".config", "alias-router"], .directory),
    (["home", ".config", "alias-router", "config.toml"],
      .file "[resolver]\nrefresh_seconds = 5\nmax_suggestions = 4\n"),
    (["work"], .directory),
    (["work", "alias-router.toml"], .file "[resolver]\nmax_suggestions = 2\n"),
    (["work", ".alias-router.toml"], .file "[resolver]\nmax_suggestions = 9\n"),
    (["work", "own.toml"], .file "[output]\nformat = \"json\"\n")]
  workingDirectory := ["work"]

/-- An environment with a home directory that sets one key. -/
def layeredEnvironment : Environment :=
  [("HOME", "/home"), ("ALIAS_ROUTER_OUTPUT__COLOR", "false")]

/-- The user's file decides about one key of a section and the project's about another, and the two
stronger sources decide about one key each of the last section. -/
theorem load_precedence_of_layers :
    ∃ settings, (load layeredEnvironment (some "own.toml") : StateM FileTree _).run layeredTree =
        (.ok settings, layeredTree) ∧
      settings.resolver.refreshSeconds = 5 ∧ settings.resolver.maxSuggestions = 2 ∧
        settings.output.format = some .json ∧ settings.output.color = false := by
  have hglobalPath : layeredEnvironment.globalPath?.filter layeredTree.leads =
      some "/home/.config/alias-router/config.toml" := by decide +kernel
  have hprojectPath : projectPaths.find? layeredTree.leads = some "alias-router.toml" := by
    decide +kernel
  have huser : Option.Rel (Reads layeredTree)
      (layeredEnvironment.globalPath?.filter layeredTree.leads) (some (.obj [("resolver",
        .obj [("refresh_seconds", .int 5), ("max_suggestions", .int 4)])])) := by
    rw [hglobalPath]
    exact .some (reads_of_file "/home/.config/alias-router/config.toml"
      "[resolver]\nrefresh_seconds = 5\nmax_suggestions = 4\n" (by decide +kernel)
      (by decide +kernel) (by cbv))
  have hproject : Option.Rel (Reads layeredTree) (projectPaths.find? layeredTree.leads)
      (some (.obj [("resolver", .obj [("max_suggestions", .int 2)])])) := by
    rw [hprojectPath]
    exact .some (reads_of_file "/work/alias-router.toml" "[resolver]\nmax_suggestions = 2\n"
      (by decide +kernel) (by decide +kernel) (by cbv))
  have hnamed : Reads layeredTree "own.toml"
      (.obj [("output", .obj [("format", .str "json")])]) :=
    reads_of_file "/work/own.toml" "[output]\nformat = \"json\"\n" (by decide +kernel)
      (by decide +kernel) (by cbv)
  have hgiven : layeredEnvironment.settings? =
      some (.obj [("output", .obj [("color", .bool false)])]) := by
    have hhome : Variable.path? "HOME" = none := by decide +kernel
    have hcolor : Variable.path? "ALIAS_ROUTER_OUTPUT__COLOR" =
        some ["output".toList, "color".toList] := by decide +kernel
    simp only [layeredEnvironment, Environment.settings?, List.filterMap_cons, List.filterMap_nil,
      hhome, hcolor, Option.map_none, Option.map_some]
    cbv
  obtain ⟨settings, hload, hkeys⟩ := load_precedence (by decide +kernel) huser hproject
    (.some hnamed) hgiven (by
      simp only [Option.toList_some, List.cons_append, List.nil_append, List.forall_mem_cons]
      refine ⟨wellTyped_section (by decide) ?_, wellTyped_section (by decide) ?_,
        wellTyped_section (by decide) ?_, wellTyped_section (by decide) ?_, List.forall_mem_nil _⟩
      all_goals
        intro α key value hvalue
        cases key <;> cases hvalue <;> exact ⟨_, rfl⟩)
  exact ⟨settings, hload, (hkeys .refreshSeconds).trans (by decide +kernel),
    (hkeys .maxSuggestions).trans (by decide +kernel), (hkeys .format).trans (by decide +kernel),
    (hkeys .color).trans (by decide +kernel)⟩

end Phrasebook.Settings
