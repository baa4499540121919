import Mathlib
import Phrasebook.Proofs.Settings.Loading

/-!
# What is reported and what is read

The report of sources says which files there are, and loading reads them. Both ask only whether a
path leads anywhere, but then loading looks for a file, from which it reads. So what is read is what
is reported as found, less the directories among it (`load_reads_found`): a directory that is named
explicitly is reported as found, and makes no difference (`run_load_some_iff_none`).

A path that is not absolute is also looked up in the directories above the working directory. The
results are about trees that have no file there.
-/

namespace Phrasebook.Settings

open FileTree

variable {tree : FileTree} {environment : Environment} {explicit : Option String}

/-- Where settings may come from, apart from the environment. -/
inductive Origin where
  | named
  | project
  | user
deriving DecidableEq

/-- The origins, the weakest first. -/
def Origin.all : List Origin := [user, project, named]

/-- How the report calls an origin. -/
def Origin.label : Origin → String
  | named => "Explicit: "
  | project => "Project: "
  | user => "Global:  "

/-- The file of an origin, if its path leads anywhere. -/
def found (tree : FileTree) (environment : Environment) (explicit : Option String) :
    Origin → Option String
  | .named => explicit.filter tree.leads
  | .project => projectPaths.find? tree.leads
  | .user => environment.globalPath?.filter tree.leads

/-- The files of all origins, the weakest first. -/
def foundPaths (tree : FileTree) (environment : Environment) (explicit : Option String) :
    List String := Origin.all.filterMap (found tree environment explicit)

theorem leads_of_mem_foundPaths {path : String} (h : path ∈ foundPaths tree environment explicit) :
    tree.leads path = true := by
  obtain ⟨origin, -, hfound⟩ := List.mem_filterMap.mp h
  cases origin with
  | named => exact (Option.filter_eq_some_iff.mp hfound).2
  | project => exact List.find?_some hfound
  | user => exact (Option.filter_eq_some_iff.mp hfound).2

/-- Settings are loaded from what is found, if the file that is named explicitly is. -/
theorem sources_eq_foundPaths (h : ∀ path ∈ explicit, tree.leads path = true) :
    sources tree environment explicit = foundPaths tree environment explicit := by
  have hnamed : explicit.filter tree.leads = explicit := by
    cases explicit with
    | none => rfl
    | some path => rw [Option.filter_some, if_pos (h path rfl)]
  have hall : ∀ user project named : Option String,
      user.toList ++ project.toList ++ named.toList = [user, project, named].filterMap id := by
    intro user project named
    cases user <;> cases project <;> cases named <;> rfl
  calc sources tree environment explicit
      = (environment.globalPath?.filter tree.leads).toList ++
          (projectPaths.find? tree.leads).toList ++ (explicit.filter tree.leads).toList := by
        rw [sources, hnamed]
    _ = foundPaths tree environment explicit := hall _ _ _

/-! ## The report -/

/-- The line that reports a file as found. -/
def foundLine (origin : Origin) (path : String) : String := "  [FOUND] " ++ origin.label ++ path

/-- The mark at the start of a line. -/
def mark (line : String) : List Char := line.toList.take 10

theorem mark_append {start : String} (h : 10 ≤ start.toList.length) (rest : String) :
    mark (start ++ rest) = mark start := by
  rw [mark, String.toList_append, List.take_append_of_le_length h, mark]

theorem mark_foundLine (origin : Origin) (path : String) :
    mark (foundLine origin path) = "  [FOUND] ".toList := by
  rw [foundLine, String.append_assoc]
  exact mark_append (by decide) _

variable {origin : Origin} {path line : String}

/-- A line with another mark reports nothing as found. -/
theorem foundLine_ne (h : mark line ≠ "  [FOUND] ".toList) : foundLine origin path ≠ line := by
  rintro rfl
  exact h (mark_foundLine origin path)

/-- The labels of different origins start differently. -/
theorem head?_label_append (origin : Origin) (path : String) :
    (origin.label ++ path).toList.head? = origin.label.toList.head? := by
  rw [String.toList_append, List.head?_append]
  cases origin <;> rfl

theorem foundLine_eq_iff {origin' : Origin} {path' : String} :
    foundLine origin path = foundLine origin' path' ↔ origin = origin' ∧ path = path' := by
  constructor
  · intro h
    rw [foundLine, foundLine, String.append_assoc, String.append_assoc,
      String.append_right_inj] at h
    have horigin : origin = origin' := by
      have hhead : (origin.label ++ path).toList.head? = (origin'.label ++ path').toList.head? := by
        rw [h]
      rw [head?_label_append, head?_label_append] at hhead
      cases origin <;> cases origin' <;> first | rfl | exact absurd hhead (by decide)
    subst horigin
    exact ⟨rfl, (String.append_right_inj _).mp h⟩
  · rintro ⟨rfl, rfl⟩
    rfl

/-- The line for a path that may be missing. -/
def markedLine (tree : FileTree) (origin : Origin) (missing path : String) : String :=
  if tree.leads path then foundLine origin path else missing ++ path

/-- The line for the file of the project. -/
def projectLine (tree : FileTree) : String :=
  (projectPaths.find? tree.leads).elim
    "  [     ] Project: ./alias-router.toml or ./.alias-router.toml" (foundLine .project)

/-- The lines of the report. -/
def reportLines (tree : FileTree) (environment : Environment) (explicit : Option String) :
    List String :=
  ["Configuration sources (in priority order):", "  [ENV  ] ALIAS_ROUTER_*"] ++
    explicit.toList.map (markedLine tree .named "  [MISS ] Explicit: ") ++ [projectLine tree] ++
    environment.globalPath?.toList.map (markedLine tree .user "  [     ] Global:  ") ++
    ["  [     ] Default: built-in defaults"]

/-- The last lines of the report. -/
theorem run_userLines (tree : FileTree) (environment : Environment) (lines : List String) :
    (match environment.globalPath? with
      | some path => Host.pathExists path >>= fun there ↦
        return lines ++ ["  [" ++ (if there then "FOUND" else "     ") ++ "] Global:  " ++ path] ++
          ["  [     ] Default: built-in defaults"]
      | none => return lines ++ [] ++ ["  [     ] Default: built-in defaults"] :
        StateM FileTree (List String)).run tree =
      (lines ++ environment.globalPath?.toList.map
        (markedLine tree .user "  [     ] Global:  ") ++ ["  [     ] Default: built-in defaults"],
        tree) := by
  cases environment.globalPath? with
  | none => rfl
  | some path =>
    show (Host.pathExists path >>= _ : StateM FileTree (List String)).run tree = _
    rw [run_bind (run_pathExists tree path), Option.toList_some, List.map_singleton, markedLine]
    cases tree.leads path <;> rfl

theorem run_describeSources (tree : FileTree) (environment : Environment)
    (explicit : Option String) :
    (describeSources environment explicit : StateM FileTree (List String)).run tree =
      (reportLines tree environment explicit, tree) := by
  rw [reportLines, projectLine]
  unfold describeSources
  cases explicit with
  | none =>
    dsimp only
    rw [pure_bind, run_bind (run_projectPath? tree)]
    cases projectPaths.find? tree.leads <;> exact run_userLines tree environment _
  | some path =>
    dsimp only
    rw [run_bind (run_pathExists tree path), Option.toList_some, List.map_singleton, markedLine,
      pure_bind, run_bind (run_projectPath? tree)]
    cases tree.leads path <;> cases projectPaths.find? tree.leads <;>
      exact run_userLines tree environment _

theorem foundLine_mem_map_markedLine_iff {origin' : Origin} {missing : String}
    (hlength : 10 ≤ missing.toList.length) (hmark : mark missing ≠ "  [FOUND] ".toList)
    (place : Option String) :
    foundLine origin path ∈ place.toList.map (markedLine tree origin' missing) ↔
      origin = origin' ∧ place.filter tree.leads = some path := by
  cases place with
  | none => exact iff_of_false List.not_mem_nil fun h ↦ nomatch h.2
  | some path' =>
    rw [Option.toList_some, List.map_singleton, List.mem_singleton, markedLine, Option.filter_some]
    split
    · rw [foundLine_eq_iff, Option.some.injEq, eq_comm (a := path)]
    · refine iff_of_false (foundLine_ne ?_) fun h ↦ nomatch h.2
      rw [mark_append hlength]
      exact hmark

theorem foundLine_eq_projectLine_iff :
    foundLine origin path = projectLine tree ↔
      origin = .project ∧ projectPaths.find? tree.leads = some path := by
  rw [projectLine]
  cases projectPaths.find? tree.leads with
  | none => exact iff_of_false (foundLine_ne (by decide)) fun h ↦ nomatch h.2
  | some path' => rw [Option.elim_some, foundLine_eq_iff, Option.some.injEq, eq_comm (a := path)]

/-- **A line reports as found** the file of an origin if its path leads anywhere. -/
theorem foundLine_mem_reportLines_iff :
    foundLine origin path ∈ reportLines tree environment explicit ↔
      found tree environment explicit origin = some path := by
  have htitle : foundLine origin path ≠ "Configuration sources (in priority order):" :=
    foundLine_ne (by decide)
  have henvironment : foundLine origin path ≠ "  [ENV  ] ALIAS_ROUTER_*" := foundLine_ne (by decide)
  have hdefault : foundLine origin path ≠ "  [     ] Default: built-in defaults" :=
    foundLine_ne (by decide)
  rw [reportLines, List.mem_append, List.mem_append, List.mem_append, List.mem_append]
  rw [foundLine_mem_map_markedLine_iff (by decide) (by decide),
    foundLine_mem_map_markedLine_iff (by decide) (by decide)]
  simp only [List.mem_cons, List.not_mem_nil, or_false, htitle, henvironment, hdefault, false_or,
    foundLine_eq_projectLine_iff]
  cases origin <;> simp [found]

/-! ## What is read -/

/-- Whether there is a file to be read under a path, which must not be too long from the root. -/
def readable (tree : FileTree) (path : String) : Bool :=
  tree.kindOf path = some .file && (Path.join tree.workingPath path).utf8ByteSize ≤ longestPath

/-- The file under a path holds a document. -/
def Holds (tree : FileTree) (path : String) (document : Json) : Prop :=
  ∃ text, tree.read path = .ok text ∧ (Toml.read? text).bind unwrapDocument? = some document

/-- No file stands at the path from a directory above the working directory. -/
def NoneAbove (tree : FileTree) (path : String) : Prop :=
  ∀ place ∈ (places tree.workingPath path).tail, tree.kindOf place ≠ some .file

instance (tree : FileTree) (path : String) : Decidable (NoneAbove tree path) :=
  inferInstanceAs (Decidable (∀ place ∈ (places tree.workingPath path).tail,
    tree.kindOf place ≠ some .file))

variable {document : Json}

/-- A document that a file holds is an object. -/
theorem Holds.exists_eq_obj (h : Holds tree path document) : ∃ fields, document = .obj fields := by
  obtain ⟨text, -, hdocument⟩ := h
  obtain ⟨whole, hwhole, hunwrapped⟩ := Option.bind_eq_some_iff.mp hdocument
  obtain ⟨_, -, hwhole⟩ := Option.bind_eq_some_iff.mp hwhole
  obtain ⟨entries, -, hwhole⟩ := Option.bind_eq_some_iff.mp hwhole
  obtain rfl := Option.some.inj hwhole
  obtain ⟨fields, -, rfl⟩ := Option.map_eq_some_iff.mp hunwrapped
  exact ⟨fields, rfl⟩

theorem ne_empty_of_leads (h : tree.leads path = true) : path ≠ "" := by
  rintro rfl
  exact absurd h Bool.false_ne_true

theorem places_workingPath (h : tree.IsPlaced) (path : String) :
    places tree.workingPath path =
      Path.join tree.workingPath path :: (places tree.workingPath path).tail := by
  obtain ⟨above, habove⟩ := upward_workingPath h
  rw [places]
  split
  · rename_i habsolute
    rw [Path.join, habsolute]
    rfl
  · rw [habove]
    rfl

theorem any_file (kind : Option FileKind) :
    kind.any (· = .file) = decide (kind = some .file) := by
  rcases kind with _ | _ | _ <;> rfl

theorem kindOf_join_workingPath (hplaced : tree.IsPlaced) (hpath : path ≠ "") :
    (tree.kindOf (Path.join tree.workingPath path)).any (· = .file) = readable tree path := by
  rw [readable, any_file]
  by_cases hshort : (Path.join tree.workingPath path).utf8ByteSize ≤ longestPath
  · rw [kindOf_of_locate_eq (locate_join_workingPath hplaced hpath hshort), decide_eq_true hshort,
      Bool.and_true]
  · rw [kindOf_eq_none_of_long (Nat.not_le.mp hshort), decide_eq_false hshort, Bool.and_false]
    rfl

/-- The file for a path is the one at that path, if there is one. -/
theorem fileFor?_eq (hplaced : tree.IsPlaced) (hpath : path ≠ "") (habove : NoneAbove tree path) :
    fileFor? tree path =
      if readable tree path then some (Path.join tree.workingPath path) else none := by
  rw [fileFor?, places_workingPath hplaced, List.find?_cons, kindOf_join_workingPath hplaced hpath]
  cases readable tree path with
  | true => rfl
  | false =>
    refine List.find?_eq_none.mpr fun place hplace ↦ ?_
    rw [any_file, decide_eq_true_iff]
    exact habove place hplace

/-- A path gives what the file under it holds. -/
theorem reads_iff_holds (hplaced : tree.IsPlaced) (hpath : path ≠ "") (habove : NoneAbove tree path)
    (hreadable : readable tree path = true) :
    Reads tree path document ↔ Holds tree path document := by
  have hshort : (Path.join tree.workingPath path).utf8ByteSize ≤ longestPath :=
    of_decide_eq_true (Bool.and_eq_true_iff.mp hreadable).2
  have hread : tree.read (Path.join tree.workingPath path) = tree.read path := by
    rw [FileTree.read, FileTree.read, locate_join_workingPath hplaced hpath hshort]
  rw [reads_iff, settingsAt, fileFor?_eq hplaced hpath habove, if_pos hreadable]
  dsimp only
  rw [hread, Holds]
  cases tree.read path with
  | error =>
    constructor
    · rintro ⟨⟩
    · rintro ⟨_, ⟨⟩, _⟩
  | ok text =>
    dsimp only
    constructor
    · intro h
      refine ⟨text, rfl, ?_⟩
      cases hdocument : (Toml.read? text).bind unwrapDocument? with
      | none =>
        rw [hdocument] at h
        cases h
      | some held =>
        rw [hdocument] at h
        exact congrArg some (Except.ok.inj h)
    · rintro ⟨_, ⟨⟩, hdocument⟩
      rw [hdocument, Option.elim_some]

/-- A path under which there is no file gives nothing. -/
theorem reads_iff_eq (hplaced : tree.IsPlaced) (hpath : path ≠ "") (habove : NoneAbove tree path)
    (hreadable : readable tree path = false) : Reads tree path document ↔ document = .obj [] := by
  rw [reads_iff, settingsAt, fileFor?_eq hplaced hpath habove, hreadable]
  show Except.ok (Json.obj []) = .ok document ↔ _
  rw [Except.ok.injEq, eq_comm]

theorem exists_forall₂_cons_iff {α β : Type} {R : α → β → Prop} {a : α} {rest : List α}
    {p : List β → Prop} :
    (∃ bs, List.Forall₂ R (a :: rest) bs ∧ p bs) ↔
      ∃ b, R a b ∧ ∃ bs, List.Forall₂ R rest bs ∧ p (b :: bs) := by
  constructor
  · rintro ⟨_, hbs, hp⟩
    obtain ⟨b, bs, hb, hrest, rfl⟩ := List.forall₂_cons_left_iff.mp hbs
    exact ⟨b, hb, bs, hrest, hp⟩
  · rintro ⟨b, hb, bs, hrest, hp⟩
    exact ⟨b :: bs, List.Forall₂.cons hb hrest, hp⟩

/-- Of what some paths give, the documents that files hold are all that matters when they are laid
over each other. -/
theorem exists_reads_foldl_iff (hplaced : tree.IsPlaced) {paths : List String}
    (hpaths : ∀ path ∈ paths, path ≠ "" ∧ NoneAbove tree path) (fields : List (String × Json))
    (p : Json → Prop) :
    (∃ documents, List.Forall₂ (Reads tree) paths documents ∧
        p (documents.foldl merge (.obj fields))) ↔
      ∃ documents, List.Forall₂ (Holds tree) (paths.filter (readable tree)) documents ∧
        p (documents.foldl merge (.obj fields)) := by
  induction paths generalizing fields with
  | nil => simp only [List.filter_nil, List.forall₂_nil_left_iff]
  | cons path rest ih =>
    obtain ⟨⟨hpath, habove⟩, hrest⟩ := List.forall_mem_cons.mp hpaths
    rw [exists_forall₂_cons_iff]
    cases hreadable : readable tree path with
    | true =>
      rw [List.filter_cons_of_pos hreadable, exists_forall₂_cons_iff]
      refine exists_congr fun document ↦ ?_
      rw [reads_iff_holds hplaced hpath habove hreadable]
      refine and_congr_right fun hholds ↦ ?_
      obtain ⟨upper, rfl⟩ := hholds.exists_eq_obj
      exact ih hrest (mergeFields fields upper)
    | false =>
      rw [List.filter_cons_of_neg (by simp [hreadable])]
      simp only [reads_iff_eq hplaced hpath habove hreadable, exists_eq_left]
      exact ih hrest fields

/-- Settings are combined by laying documents, one after the other, over an object. -/
theorem exists_combine_eq_ok_iff :
    ∃ fields, ∀ {documents : List Json} {given : Json} {settings : Settings},
      combine documents given = .ok settings ↔
        decode .settings (merge (documents.foldl merge (.obj fields)) given) = .ok settings := by
  obtain ⟨upper, hupper⟩ : ∃ upper, default.toJson = .obj upper := ⟨_, rfl⟩
  refine ⟨mergeFields [] upper, fun {documents given settings} ↦ ?_⟩
  rw [combine, mergeAll, hupper, List.cons_append, List.foldl_cons, List.foldl_append, merge,
    List.foldl_cons, List.foldl_nil]
  cases decode .settings (merge (documents.foldl merge (.obj (mergeFields [] upper))) given) with
  | ok => rw [Except.ok.injEq, Decoded.ok.injEq]
  | fault => exact iff_of_false nofun nofun

/-- **Loading reads the files among what is found.** -/
theorem run_load_eq_ok_iff_holds (hplaced : tree.IsPlaced)
    (habove : ∀ path ∈ foundPaths tree environment explicit, NoneAbove tree path)
    {settings : Settings} :
    (load environment explicit : StateM FileTree _).run tree = (.ok settings, tree) ↔
      (∀ path ∈ explicit, tree.leads path = true) ∧ ∃ given, environment.settings? = some given ∧
        ∃ documents, List.Forall₂ (Holds tree)
          ((foundPaths tree environment explicit).filter (readable tree)) documents ∧
          combine documents given = .ok settings := by
  rw [run_load_eq_ok_iff]
  refine and_congr_right fun hexplicit ↦ ?_
  rw [exists_comm, sources_eq_foundPaths hexplicit]
  refine exists_congr fun given ↦ ?_
  simp only [and_left_comm (b := environment.settings? = some given), exists_and_left]
  refine and_congr_right fun hgiven ↦ ?_
  have hpaths : ∀ path ∈ foundPaths tree environment explicit,
      path ≠ "" ∧ NoneAbove tree path := fun path hpath ↦
    ⟨ne_empty_of_leads (leads_of_mem_foundPaths hpath), habove path hpath⟩
  obtain ⟨fields, hcombine⟩ := exists_combine_eq_ok_iff
  simp only [hcombine]
  exact exists_reads_foldl_iff hplaced hpaths fields fun merged ↦
    decode .settings (merge merged given) = .ok settings

theorem foundPaths_some (h : tree.leads path = true) :
    foundPaths tree environment (some path) = foundPaths tree environment none ++ [path] := by
  have hpath : ∀ path' ∈ some path, tree.leads path' = true := by
    rintro _ ⟨⟩
    exact h
  have hnone : sources tree environment none = foundPaths tree environment none :=
    sources_eq_foundPaths nofun
  rw [← sources_eq_foundPaths hpath, ← hnone, sources, sources, Option.toList_some,
    Option.toList_none, List.append_nil]

/-- Where there is something but no file at the path that is named explicitly, the same settings are
loaded as without it. -/
theorem run_load_some_iff_none (hplaced : tree.IsPlaced)
    (habove : ∀ path' ∈ foundPaths tree environment (some path), NoneAbove tree path')
    (hleads : tree.leads path = true) (hreadable : readable tree path = false)
    {settings : Settings} :
    (load environment (some path) : StateM FileTree _).run tree = (.ok settings, tree) ↔
      (load environment none : StateM FileTree _).run tree = (.ok settings, tree) := by
  have hfiles : (foundPaths tree environment (some path)).filter (readable tree) =
      (foundPaths tree environment none).filter (readable tree) := by
    rw [foundPaths_some hleads, List.filter_append, List.filter_cons_of_neg (by simp [hreadable]),
      List.filter_nil, List.append_nil]
  have hnone : ∀ path' ∈ foundPaths tree environment none, NoneAbove tree path' := by
    intro path' hpath'
    refine habove path' ?_
    rw [foundPaths_some hleads]
    exact List.mem_append_left _ hpath'
  rw [run_load_eq_ok_iff_holds hplaced habove, run_load_eq_ok_iff_holds hplaced hnone, hfiles]
  simp [hleads]

/-- **What is reported as found is what is read, as far as it is a file.** The report has a line for
each origin whose path leads anywhere, and settings are loaded from the files among these, laid over
each other in the order of the origins. Nothing is read from a directory, also where it is named
explicitly. -/
theorem load_reads_found (hplaced : tree.IsPlaced)
    (habove : ∀ path ∈ foundPaths tree environment explicit, NoneAbove tree path) :
    ∃ lines, (describeSources environment explicit : StateM FileTree _).run tree = (lines, tree) ∧
      (∀ origin path, foundLine origin path ∈ lines ↔
        found tree environment explicit origin = some path) ∧
      ∀ settings, (load environment explicit : StateM FileTree _).run tree = (.ok settings, tree) ↔
        (∀ path ∈ explicit, tree.leads path = true) ∧ ∃ given, environment.settings? = some given ∧
          ∃ documents, List.Forall₂ (Holds tree)
            ((foundPaths tree environment explicit).filter (readable tree)) documents ∧
            combine documents given = .ok settings :=
  ⟨reportLines tree environment explicit, run_describeSources tree environment explicit,
    fun _ _ ↦ foundLine_mem_reportLines_iff, fun _ ↦ run_load_eq_ok_iff_holds hplaced habove⟩

/-- A directory that has the name of a file for settings, and a file that has another. -/
def directoryTree : FileTree where
  nodes := [(["work"], .directory), (["work", "alias-router.toml"], .directory),
    (["work", "own.toml"], .file "[output]\ncolor = false\n")]
  workingDirectory := ["work"]

theorem isPlaced_directoryTree : directoryTree.IsPlaced where
  names := by
    rintro name (_ | ⟨_, ⟨⟩⟩)
    exact ⟨⟨by decide, by decide, by decide, by decide⟩, by decide, by decide⟩
  directory := by
    intro location h
    rcases List.prefix_cons_iff.mp h with rfl | ⟨rest, rfl, hrest⟩
    · rfl
    · rw [List.prefix_nil.mp hrest]
      rfl

/-- The file that is named explicitly is read, and the directory is not. -/
theorem load_reads_found_of_file :
    ∃ lines settings, (describeSources [] (some "own.toml") : StateM FileTree _).run directoryTree =
        (lines, directoryTree) ∧
      (load [] (some "own.toml") : StateM FileTree _).run directoryTree =
        (.ok settings, directoryTree) ∧
      foundLine .named "own.toml" ∈ lines ∧ foundLine .project "alias-router.toml" ∈ lines ∧
      settings.output.color = false := by
  have habove : ∀ path ∈ foundPaths directoryTree [] (some "own.toml"),
      NoneAbove directoryTree path := by decide +kernel
  obtain ⟨lines, hlines, hfound, hload⟩ := load_reads_found isPlaced_directoryTree habove
  have hpaths : (foundPaths directoryTree [] (some "own.toml")).filter (readable directoryTree) =
      ["own.toml"] := by decide +kernel
  refine ⟨lines, { output := { color := false } }, hlines,
    (hload _).mpr ⟨by decide +kernel, .obj [], rfl,
      [.obj [("output", .obj [("color", .bool false)])]], ?_, ?_⟩,
    (hfound _ _).mpr ?_, (hfound _ _).mpr ?_, rfl⟩
  · rw [hpaths]
    exact .cons ⟨"[output]\ncolor = false\n", by decide +kernel, by cbv⟩ .nil
  · cbv
  · decide +kernel
  · decide +kernel

/-- The directory is reported as found, be it as the file of the project or as the one that is
named, but nothing is read from it: all settings have their defaults. -/
theorem exists_found_not_read :
    foundLine .project "alias-router.toml" ∈
        ((describeSources [] none : StateM FileTree _).run directoryTree).1 ∧
      (load [] none : StateM FileTree _).run directoryTree = (.ok default, directoryTree) ∧
      foundLine .named "alias-router.toml" ∈
        ((describeSources [] (some "alias-router.toml") : StateM FileTree _).run directoryTree).1 ∧
      (load [] (some "alias-router.toml") : StateM FileTree _).run directoryTree =
        (.ok default, directoryTree) ∧
      ∀ document, ¬ Holds directoryTree "alias-router.toml" document := by
  have hnone : ∀ path ∈ foundPaths directoryTree [] none, NoneAbove directoryTree path := by
    decide +kernel
  have hsome : ∀ path ∈ foundPaths directoryTree [] (some "alias-router.toml"),
      NoneAbove directoryTree path := by decide +kernel
  have hfiles : (foundPaths directoryTree [] none).filter (readable directoryTree) = [] := by
    decide +kernel
  have hload : (load [] none : StateM FileTree _).run directoryTree =
      (.ok default, directoryTree) := by
    refine (run_load_eq_ok_iff_holds isPlaced_directoryTree hnone).mpr
      ⟨nofun, .obj [], rfl, [], ?_, by cbv⟩
    rw [hfiles]
    exact .nil
  refine ⟨?_, hload, ?_, (run_load_some_iff_none isPlaced_directoryTree hsome (by decide +kernel)
    (by decide +kernel)).mpr hload, ?_⟩
  · rw [run_describeSources]
    exact foundLine_mem_reportLines_iff.mpr (by decide +kernel)
  · rw [run_describeSources]
    exact foundLine_mem_reportLines_iff.mpr (by decide +kernel)
  · rintro document ⟨text, htext, -⟩
    have hread : directoryTree.read "alias-router.toml" = .error .isDirectory := by decide +kernel
    rw [hread] at htext
    cases htext

end Phrasebook.Settings
