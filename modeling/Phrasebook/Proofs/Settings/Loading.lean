import Mathlib.Data.List.Forall2
import Phrasebook.Proofs.FileTree.Working
import Phrasebook.Settings.Loading

/-!
# Loading settings from a tree

Loading settings asks the machine which of some files there are and what is in them, and changes
nothing. On a file tree it is therefore a function of the tree: for each of the programs involved
this is what it gives. The result is a condition for loading to succeed (`run_load_eq_ok_iff`).
-/

namespace Phrasebook

namespace FileTree

/-- Whether the path leads to anything. -/
def leads (tree : FileTree) (path : String) : Bool := (tree.kindOf path).isSome

theorem run_bind {α β : Type} {tree : FileTree} {program : StateM FileTree α}
    {next : α → StateM FileTree β} {a : α} (h : program.run tree = (a, tree)) :
    (program >>= next).run tree = (next a).run tree := by
  show (next (program.run tree).1).run (program.run tree).2 = _
  rw [h]

end FileTree

namespace Settings

open FileTree

variable {tree : FileTree} {environment : Environment} {explicit : Option String}

theorem run_pathExists (tree : FileTree) (path : String) :
    (Host.pathExists path : StateM FileTree Bool).run tree = (tree.leads path, tree) := rfl

theorem run_firstLeading (tree : FileTree) (fits : FileKind → Bool) (paths : List String) :
    (firstLeading fits paths : StateM FileTree (Option String)).run tree =
      (paths.find? fun path ↦ (tree.kindOf path).any fits, tree) := by
  induction paths with
  | nil => rfl
  | cons path rest ih =>
    have hkind : (Host.kindOf path : StateM FileTree _).run tree = (tree.kindOf path, tree) := rfl
    rw [firstLeading, run_bind hkind, List.find?_cons]
    cases (tree.kindOf path).any fits with
    | true => rfl
    | false => exact ih

/-! ## Sources -/

/-- The files that settings are loaded from, in order: that of the user and that of the project, if
they are there, and the one that is named explicitly. -/
def sources (tree : FileTree) (environment : Environment) (explicit : Option String) :
    List String :=
  (environment.globalPath?.filter tree.leads).toList ++ (projectPaths.find? tree.leads).toList ++
    explicit.toList

theorem run_projectPath? (tree : FileTree) :
    (projectPath? : StateM FileTree (Option String)).run tree =
      (projectPaths.find? tree.leads, tree) := by
  have hleads : (fun path ↦ (tree.kindOf path).any fun _ ↦ true) = tree.leads := by
    funext path
    rw [leads]
    cases tree.kindOf path <;> rfl
  rw [projectPath?, run_firstLeading, hleads]

theorem run_sourcePaths (tree : FileTree) (environment : Environment) (explicit : Option String) :
    (sourcePaths environment explicit : StateM FileTree (List String)).run tree =
      (sources tree environment explicit, tree) := by
  have hrest : ∀ global : List String,
      (projectPath? >>= fun project ↦ pure (global ++ project.toList ++ explicit.toList) :
        StateM FileTree (List String)).run tree =
      (global ++ (projectPaths.find? tree.leads).toList ++ explicit.toList, tree) :=
    fun global ↦ run_bind (run_projectPath? tree)
  rw [sourcePaths, sources]
  cases environment.globalPath? with
  | none => exact hrest []
  | some path =>
    rw [run_bind (run_pathExists tree path), Option.filter_some]
    cases tree.leads path with
    | true => exact hrest [path]
    | false => exact hrest []

theorem run_missingFile? (tree : FileTree) (explicit : Option String) :
    (missingFile? explicit : StateM FileTree (Option String)).run tree =
      (explicit.filter fun path ↦ !tree.leads path, tree) := by
  cases explicit with
  | none => rfl
  | some path =>
    rw [missingFile?, run_bind (run_pathExists tree path), Option.filter_some]
    cases tree.leads path <;> rfl

/-! ## Files -/

/-- The file that is read for the settings under a path. -/
def fileFor? (tree : FileTree) (path : String) : Option String :=
  (places (tree.workingPath) path).find? fun place ↦ (tree.kindOf place).any (· = .file)

/-- The settings under a path. -/
def settingsAt (tree : FileTree) (path : String) : Except LoadError Json :=
  match fileFor? tree path with
  | some place =>
    match tree.read place with
    | .ok text => ((Toml.read? text).bind unwrapDocument?).elim (.error (.unreadable path)) .ok
    | .error _ => .error (.unreadable path)
  | none => .ok (.obj [])

theorem run_fileSettings (tree : FileTree) (path : String) :
    (fileSettings path : StateM FileTree _).run tree = (settingsAt tree path, tree) := by
  have hplace : (firstLeading (· = .file) (places (tree.workingPath) path) :
      StateM FileTree _).run tree = (fileFor? tree path, tree) := run_firstLeading tree _ _
  have hdirectory : (Host.workingDirectory : StateM FileTree _).run tree =
      (tree.workingPath, tree) := rfl
  rw [fileSettings, run_bind hdirectory, run_bind hplace, settingsAt]
  cases fileFor? tree path with
  | none => rfl
  | some place =>
    have hread : (Host.read place : StateM FileTree _).run tree = (tree.read place, tree) := rfl
    rw [run_bind hread]
    dsimp only
    cases tree.read place <;> rfl

/-- The path gives the document. -/
def Reads (tree : FileTree) (path : String) (document : Json) : Prop :=
  (fileSettings path : StateM FileTree _).run tree = (.ok document, tree)

theorem reads_iff {path : String} {document : Json} :
    Reads tree path document ↔ settingsAt tree path = .ok document := by
  rw [Reads, run_fileSettings, Prod.mk.injEq, and_iff_left rfl]

theorem reads_of_file {path : String} (place text : String) {document : Json}
    (hplace : fileFor? tree path = some place) (hread : tree.read place = .ok text)
    (hdocument : (Toml.read? text).bind unwrapDocument? = some document) :
    Reads tree path document := by
  rw [reads_iff, settingsAt, hplace]
  dsimp only
  rw [hread]
  dsimp only
  rw [hdocument, Option.elim_some]

theorem run_filesSettings (tree : FileTree) (paths : List String) :
    ∃ result, (filesSettings paths : StateM FileTree _).run tree = (result, tree) ∧
      ∀ documents, result = .ok documents ↔ List.Forall₂ (Reads tree) paths documents := by
  induction paths with
  | nil =>
    refine ⟨.ok [], rfl, fun documents ↦ ?_⟩
    rw [List.forall₂_nil_left_iff, Except.ok.injEq, eq_comm]
  | cons path rest ih =>
    obtain ⟨more, hmore, hdocuments⟩ := ih
    rw [filesSettings, run_bind (run_fileSettings tree path), run_bind hmore]
    refine ⟨_, rfl, fun documents ↦ ?_⟩
    simp only [List.forall₂_cons_left_iff, reads_iff]
    cases settingsAt tree path with
    | error => exact iff_of_false nofun fun ⟨_, _, h, _⟩ ↦ nomatch h
    | ok document =>
      cases more with
      | error =>
        refine iff_of_false nofun ?_
        rintro ⟨_, others, -, hothers, -⟩
        exact nomatch (hdocuments others).mpr hothers
      | ok others =>
        constructor
        · rintro ⟨⟩
          exact ⟨document, others, rfl, (hdocuments others).mp rfl, rfl⟩
        · rintro ⟨_, _, ⟨⟩, hothers, rfl⟩
          obtain rfl := Except.ok.inj ((hdocuments _).mpr hothers)
          rfl

/-- **Loading succeeds** where the file that is named explicitly is there, no text in the
environment is torn, and all files can be read and combined. -/
theorem run_load_eq_ok_iff {settings : Settings} :
    (load environment explicit : StateM FileTree _).run tree = (.ok settings, tree) ↔
      (∀ path ∈ explicit, tree.leads path = true) ∧
        ∃ documents given, List.Forall₂ (Reads tree) (sources tree environment explicit) documents ∧
          environment.settings? = some given ∧ combine documents given = .ok settings := by
  obtain ⟨result, hrun, hresult⟩ := run_filesSettings tree (sources tree environment explicit)
  rw [load, run_bind (run_missingFile? tree explicit)]
  cases hmissing : explicit.filter fun path ↦ !tree.leads path with
  | some path =>
    obtain ⟨hpath, hleads⟩ := Option.filter_eq_some_iff.mp hmissing
    refine iff_of_false nofun fun h ↦ ?_
    rw [h.1 path hpath] at hleads
    exact Bool.false_ne_true hleads
  | none =>
    have hexplicit : ∀ path ∈ explicit, tree.leads path = true := by
      intro path hpath
      simpa using Option.filter_eq_none_iff.mp hmissing path hpath
    show (sourcePaths environment explicit >>= _ : StateM FileTree _).run tree = _ ↔ _
    rw [run_bind (run_sourcePaths tree environment explicit), run_bind hrun,
      and_iff_right hexplicit]
    cases hgiven : environment.settings? with
    | none => exact iff_of_false nofun fun ⟨_, _, _, h, _⟩ ↦ nomatch h
    | some given =>
      show (result.bind (combine · given), tree) = (.ok settings, tree) ↔ _
      rw [Prod.mk.injEq, and_iff_left rfl]
      cases result with
      | error error =>
        refine iff_of_false nofun ?_
        rintro ⟨documents, -, hdocuments, -⟩
        exact nomatch (hresult documents).mpr hdocuments
      | ok documents =>
        constructor
        · intro h
          exact ⟨documents, given, (hresult documents).mp rfl, rfl, h⟩
        · rintro ⟨documents', _, hdocuments, ⟨⟩, h⟩
          obtain rfl := Except.ok.inj ((hresult documents').mpr hdocuments)
          exact h

end Settings

end Phrasebook
