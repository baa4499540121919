import Phrasebook.FileTree
import Phrasebook.Proofs.Text.Pieces

/-!
# Paths from the working directory

A path that is not absolute is followed from the working directory. The same place is reached from
the root by the path of the working directory with the path behind it, as long as the working
directory is a directory and the longer path is not too long (`locate_join_workingPath`). So it
makes no difference which of the two is looked up.
-/

namespace Phrasebook

open Text

/-! ## Parts of paths -/

namespace Path

variable {base path : String}

theorem pieces_append_slash (before after : String) :
    pieces (before ++ "/" ++ after) = pieces before ++ pieces after := by
  have hlist : (before ++ "/" ++ after).toList = before.toList ++ '/' :: after.toList := by
    simp [String.toList_append]
  rw [pieces, hlist, piecesBy_append (by decide), List.map_append]
  rfl

/-- A name that a directory can have: it is not empty, and it says something. -/
structure IsName (name : String) : Prop where
  nonempty : name ≠ ""
  noSlash : '/' ∉ name.toList
  ne_dot : name ≠ "."
  ne_up : name ≠ ".."

theorem IsName.isPiece {name : String} (h : IsName name) :
    IsPiece (fun c ↦ c = '/') name.toList :=
  ⟨mt String.toList_eq_nil_iff.mp h.nonempty,
    fun _ hc ↦ decide_eq_false fun heq ↦ h.noSlash (heq ▸ hc)⟩

theorem pieces_intercalate {names : List String} (h : ∀ name ∈ names, IsName name) :
    pieces (String.intercalate "/" names) = names := by
  have hpieces : ∀ piece ∈ names.map String.toList, IsPiece (fun c ↦ c = '/') piece :=
    List.forall_mem_map.mpr fun name hname ↦ (h name hname).isPiece
  have hlist : (String.intercalate "/" names).toList =
      ['/'].intercalate (names.map String.toList) := String.toList_intercalate
  rw [pieces, hlist, piecesBy_intercalate (by decide) hpieces, List.map_map]
  exact List.map_id'' (fun name ↦ String.ofList_toList) names

/-- The parts of a path below another come after those of that path. -/
theorem pieces_join (h : isAbsolute path = false) :
    pieces (join base path) = pieces base ++ pieces path := by
  rw [join, h, Bool.false_or]
  split
  · rename_i hempty
    rw [String.isEmpty_iff.mp hempty]
    rfl
  · split
    · rename_i hslash
      obtain ⟨before, hbefore⟩ := List.getLast?_eq_some_iff.mp (beq_iff_eq.mp hslash)
      have hpieces : piecesBy (· = '/') base.toList = piecesBy (· = '/') before := by
        rw [hbefore, piecesBy_append (by decide)]
        exact List.append_nil _
      rw [pieces, pieces, hpieces, String.toList_append, hbefore, List.append_assoc,
        List.singleton_append, piecesBy_append (by decide), List.map_append]
      rfl
    · exact pieces_append_slash base path

/-- A path below another ends with it. -/
theorem exists_join_eq (base path : String) :
    ∃ before, join base path = before ++ path ∧
      (before = "" ∨ before = base ∨ before = base ++ "/") := by
  rw [join]
  split
  · exact ⟨"", String.empty_append.symm, Or.inl rfl⟩
  · split
    · exact ⟨base, rfl, Or.inr (Or.inl rfl)⟩
    · exact ⟨base ++ "/", rfl, Or.inr (Or.inr rfl)⟩

theorem getLast?_join (h : path ≠ "") :
    (join base path).toList.getLast? = path.toList.getLast? := by
  obtain ⟨before, hjoin, -⟩ := exists_join_eq base path
  rw [hjoin, String.toList_append, List.getLast?_append]
  cases hpath : path.toList.getLast? with
  | none => exact absurd (String.toList_eq_nil_iff.mp (List.getLast?_eq_none_iff.mp hpath)) h
  | some => rfl

/-- What is not in the path that it is below comes from the path itself. -/
theorem mem_join_iff {c : Char} (hslash : c ≠ '/') (hbase : c ∉ base.toList) :
    c ∈ (join base path).toList ↔ c ∈ path.toList := by
  obtain ⟨before, hjoin, rfl | rfl | rfl⟩ := exists_join_eq base path <;>
    simp [hjoin, String.toList_append, hbase, hslash]

theorem utf8ByteSize_le_join (base path : String) :
    path.utf8ByteSize ≤ (join base path).utf8ByteSize := by
  obtain ⟨before, hjoin, -⟩ := exists_join_eq base path
  rw [hjoin, String.utf8ByteSize_append]
  exact Nat.le_add_left _ _

theorem isAbsolute_join (h : isAbsolute base = true) : isAbsolute (join base path) = true := by
  have hbase : ∀ after : String, isAbsolute (base ++ after) = true := by
    intro after
    rw [isAbsolute] at h ⊢
    rw [String.toList_append, List.head?_append, beq_iff_eq.mp h]
    rfl
  rw [join]
  split
  · rename_i hpath
    rcases Bool.or_eq_true_iff.mp hpath with hpath | hempty
    · exact hpath
    · rw [String.isEmpty_iff.mp hempty] at h
      exact absurd h (by decide)
  · split
    · exact hbase path
    · rw [String.append_assoc]
      exact hbase ("/" ++ path)

end Path

namespace FileTree

variable {tree : FileTree} {path : String}

theorem steps_join {base : String} (habsolute : Path.isAbsolute path = false) (hpath : path ≠ "") :
    steps (Path.join base path) = Path.pieces base ++ steps path := by
  rw [steps, steps, Path.pieces_join habsolute, Path.getLast?_join hpath, List.append_assoc]

/-- The working directory is a directory that lies in directories, all of which have names. -/
structure IsPlaced (tree : FileTree) : Prop where
  names : ∀ name ∈ tree.workingDirectory,
    Path.IsName name ∧ name.utf8ByteSize ≤ longestName ∧ '\x00' ∉ name.toList
  directory : ∀ location, location <+: tree.workingDirectory → tree.nodeAt? location =
    some .directory

/-- The path of the working directory. -/
def workingPath (tree : FileTree) : String := "/" ++ String.intercalate "/" tree.workingDirectory

theorem walk_append {here : Location} {names : List String} (rest : List String)
    (hnames : ∀ name ∈ names, Path.IsName name ∧ name.utf8ByteSize ≤ longestName)
    (hdirectory : ∀ location, here <+: location → location <+: here ++ names →
      tree.nodeAt? location = some .directory) :
    tree.walk here (names ++ rest) = tree.walk (here ++ names) rest := by
  induction names generalizing here with
  | nil => rw [List.nil_append, List.append_nil]
  | cons name names ih =>
    obtain ⟨⟨hname, hshort⟩, hnames⟩ := List.forall_mem_cons.mp hnames
    have hhere : tree.nodeAt? here = some .directory :=
      hdirectory here (List.prefix_refl here) (List.prefix_append here _)
    rw [List.cons_append, walk, hhere]
    dsimp only
    rw [if_neg hname.ne_dot, if_neg hname.ne_up, if_neg (Nat.not_lt.mpr hshort), ih hnames]
    · rw [List.append_assoc, List.singleton_append]
    · intro location hbelow habove
      rw [List.append_assoc, List.singleton_append] at habove
      exact hdirectory location ((List.prefix_append here [name]).trans hbelow) habove

theorem pieces_workingPath (h : tree.IsPlaced) :
    Path.pieces tree.workingPath = tree.workingDirectory := by
  have hpieces : Path.pieces ("" ++ "/" ++ String.intercalate "/" tree.workingDirectory) =
      tree.workingDirectory := by
    rw [Path.pieces_append_slash, Path.pieces_intercalate fun name hname ↦ (h.names name hname).1]
    rfl
  exact hpieces

theorem isAbsolute_workingPath (tree : FileTree) : Path.isAbsolute tree.workingPath = true := by
  rw [workingPath, Path.isAbsolute, String.toList_append]
  rfl

theorem not_mem_intercalate {c : Char} (hslash : c ≠ '/') {names : List String}
    (h : ∀ name ∈ names, c ∉ name.toList) : c ∉ (String.intercalate "/" names).toList := by
  have hlist : (String.intercalate "/" names).toList =
      ['/'].intercalate (names.map String.toList) := String.toList_intercalate
  have hnames : ∀ piece ∈ names.map String.toList, ∀ d ∈ piece, d ≠ c :=
    List.forall_mem_map.mpr fun name hname d hd heq ↦ h name hname (heq ▸ hd)
  rw [hlist]
  exact fun hmem ↦ forall_mem_intercalate (p := (· ≠ c)) hslash.symm hnames c hmem rfl

/-- What is wrong with a path is wrong with it below the working directory, and the other way round,
unless that makes it too long. -/
theorem fault?_join_workingPath (h : tree.IsPlaced) (hpath : path ≠ "")
    (hshort : (Path.join tree.workingPath path).utf8ByteSize ≤ longestPath) :
    fault? (Path.join tree.workingPath path) = fault? path := by
  have hnul : '\x00' ∉ tree.workingPath.toList := by
    rw [workingPath, String.toList_append, List.mem_append, not_or]
    exact ⟨by decide, not_mem_intercalate (by decide) fun name hname ↦ (h.names name hname).2.2⟩
  have hcontains : (Path.join tree.workingPath path).toList.contains '\x00' =
      path.toList.contains '\x00' := by
    rw [Bool.eq_iff_iff, List.contains_iff_mem, List.contains_iff_mem,
      Path.mem_join_iff (by decide) hnul]
  have hjoin : Path.join tree.workingPath path ≠ "" := by
    intro hempty
    have hlast : (Path.join tree.workingPath path).toList.getLast? = path.toList.getLast? :=
      Path.getLast?_join hpath
    rw [hempty] at hlast
    exact hpath (String.toList_eq_nil_iff.mp (List.getLast?_eq_none_iff.mp hlast.symm))
  have hshort' : path.utf8ByteSize ≤ longestPath :=
    Nat.le_trans (Path.utf8ByteSize_le_join tree.workingPath path) hshort
  rw [fault?, fault?, hcontains, if_neg (mt String.isEmpty_iff.mp hjoin),
    if_neg (mt String.isEmpty_iff.mp hpath), if_neg (Nat.not_lt.mpr hshort),
    if_neg (Nat.not_lt.mpr hshort')]

theorem kindOf_eq_none_of_long (h : longestPath < path.utf8ByteSize) : tree.kindOf path = none := by
  have hfault : (fault? path).isSome := by
    rw [fault?, if_pos h]
    split
    · rfl
    · split <;> rfl
  obtain ⟨error, herror⟩ := Option.isSome_iff_exists.mp hfault
  rw [kindOf, locate, herror]

theorem kindOf_of_locate_eq {path' : String} (h : tree.locate path = tree.locate path') :
    tree.kindOf path = tree.kindOf path' := by
  rw [kindOf, kindOf, h]

/-- **A path leads to the same place from the root** when the path of the working directory is put
in front of it. -/
theorem locate_join_workingPath (h : tree.IsPlaced) (hpath : path ≠ "")
    (hshort : (Path.join tree.workingPath path).utf8ByteSize ≤ longestPath) :
    tree.locate (Path.join tree.workingPath path) = tree.locate path := by
  cases habsolute : Path.isAbsolute path with
  | true => rw [Path.join, habsolute]; rfl
  | false =>
    have hwalk : tree.walk [] (tree.workingDirectory ++ steps path) =
        tree.walk tree.workingDirectory (steps path) :=
      walk_append (steps path) (fun name hname ↦ ⟨(h.names name hname).1, (h.names name hname).2.1⟩)
        fun location _ hprefix ↦ h.directory location hprefix
    rw [locate, locate, fault?_join_workingPath h hpath hshort, start, start, habsolute,
      Path.isAbsolute_join (isAbsolute_workingPath tree), steps_join habsolute hpath,
      pieces_workingPath h]
    rw [if_pos rfl, hwalk]
    rfl

/-- Going up from the working directory starts there. -/
theorem upward_workingPath (h : tree.IsPlaced) :
    ∃ above, Path.upward tree.workingPath = tree.workingPath :: above := by
  have habsolute : Path.isAbsolute tree.workingPath = true := isAbsolute_workingPath tree
  have hcomponents : Path.components tree.workingPath = tree.workingDirectory := by
    rw [Path.components, habsolute, pieces_workingPath h]
    exact List.filter_eq_self.mpr fun name hname ↦ bne_iff_ne.mpr (h.names name hname).1.ne_dot
  rw [Path.upward, hcomponents, habsolute, List.range_succ, List.reverse_append,
    List.reverse_singleton, List.singleton_append, List.map_cons, List.take_length]
  exact ⟨_, rfl⟩

end FileTree

end Phrasebook
