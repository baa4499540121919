import Mathlib.Tactic.SplitIfs
import Phrasebook.FileTree

/-!
# Writing into a tree

Three things are done to a tree when a file is written to: the directories on the way to it are
made, the file is made if it is missing, and text is put at its end. None of them takes a directory
away (`KeepsDirectories`), and that is all that it takes for a path to go on leading where it led
(`locate_of_keepsDirectories`), and for directories that were made once to be there for good
(`makeDirectory_again`). Only the last of the three changes the text of a file, and only at one
place.
-/

namespace Phrasebook.FileTree

variable {tree made later : FileTree} {here place other : Location} {path : String}

/-- The text of the file at a place, which is empty if there is none. -/
def textAt (tree : FileTree) (place : Location) : String :=
  match tree.nodeAt? place with
  | some (.file text) => text
  | _ => ""

theorem textAt_of_file {text : String} (h : tree.nodeAt? place = some (.file text)) :
    tree.textAt place = text := by
  rw [textAt, h]

theorem read_eq_ok {text : String} (hlocate : tree.locate path = .ok place)
    (hfile : tree.nodeAt? place = some (.file text)) : tree.read path = .ok text := by
  rw [read, hlocate]
  dsimp only
  rw [hfile]

theorem exists_file_of_read {text : String} (h : tree.read path = .ok text) :
    ∃ place, tree.locate path = .ok place ∧ tree.nodeAt? place = some (.file text) := by
  rw [read] at h
  split at h
  · cases h
  · rename_i place hlocate
    split at h
    · cases h
    · cases h
    · rename_i text' hfile
      obtain rfl := Except.ok.inj h
      exact ⟨place, hlocate, hfile⟩

/-! ## What stands at a place -/

theorem ne_nil_of_file {text : String} (h : tree.nodeAt? place = some (.file text)) :
    place ≠ [] := by
  rintro rfl
  cases h

theorem ne_nil_of_none (h : tree.nodeAt? place = none) : place ≠ [] := by
  rintro rfl
  cases h

theorem nodeAt?_putAt_self (h : place ≠ []) (node : FileNode) :
    (tree.putAt place node).nodeAt? place = some node := by
  have hempty : ¬place.isEmpty = true := mt List.isEmpty_iff.mp h
  rw [nodeAt?, if_neg hempty, putAt, List.lookup_cons_self]

theorem nodeAt?_putAt_of_ne (h : other ≠ place) (node : FileNode) :
    (tree.putAt place node).nodeAt? other = tree.nodeAt? other := by
  have hfilter : ∀ nodes : List (Location × FileNode),
      (nodes.filter fun entry ↦ entry.1 != place).lookup other = nodes.lookup other := by
    intro nodes
    induction nodes with
    | nil => rfl
    | cons entry nodes ih =>
      rw [List.filter_cons]
      split
      · rw [List.lookup_cons, List.lookup_cons, ih]
      · rename_i hplace
        have hentry : (other == entry.1) = false := by
          have hequal : entry.1 = place := by simpa using hplace
          rw [hequal]
          exact beq_eq_false_iff_ne.mpr h
        rw [List.lookup_cons, hentry, ih]
  rw [nodeAt?, nodeAt?, putAt, List.lookup_cons, beq_eq_false_iff_ne.mpr h, hfilter]

/-- What has no text changes no text when it is put where nothing was. -/
theorem textAt_putAt_of_none {node : FileNode} (hnone : tree.nodeAt? place = none)
    (hnode : node = .directory ∨ node = .file "") (other : Location) :
    (tree.putAt place node).textAt other = tree.textAt other := by
  by_cases hother : other = place
  · rw [hother, textAt, textAt, nodeAt?_putAt_self (ne_nil_of_none hnone), hnone]
    rcases hnode with rfl | rfl <;> rfl
  · rw [textAt, textAt, nodeAt?_putAt_of_ne hother]

/-! ## Directories are kept -/

/-- Every directory of the first tree is one of the second, and paths start at the same place. -/
structure KeepsDirectories (tree later : FileTree) : Prop where
  workingDirectory_eq : later.workingDirectory = tree.workingDirectory
  directory : ∀ place, tree.nodeAt? place = some .directory →
    later.nodeAt? place = some .directory

theorem KeepsDirectories.refl (tree : FileTree) : KeepsDirectories tree tree := ⟨rfl, fun _ h ↦ h⟩

theorem KeepsDirectories.trans (h : KeepsDirectories tree made) (h' : KeepsDirectories made later) :
    KeepsDirectories tree later where
  workingDirectory_eq := h'.workingDirectory_eq.trans h.workingDirectory_eq
  directory place hplace := h'.directory place (h.directory place hplace)

theorem keepsDirectories_putAt {node : FileNode}
    (h : tree.nodeAt? place = some .directory → node = .directory) :
    KeepsDirectories tree (tree.putAt place node) where
  workingDirectory_eq := rfl
  directory other hother := by
    by_cases hempty : other = []
    · rw [hempty]
      rfl
    · by_cases hequal : other = place
      · subst hequal
        rw [nodeAt?_putAt_self hempty, h hother]
      · rw [nodeAt?_putAt_of_ne hequal, hother]

theorem KeepsDirectories.start (h : KeepsDirectories tree later) (path : String) :
    later.start path = tree.start path := by
  rw [FileTree.start, FileTree.start, h.workingDirectory_eq]

theorem walk_of_keepsDirectories (h : KeepsDirectories tree later) {steps : List String}
    (hwalk : tree.walk here steps = .ok place) : later.walk here steps = .ok place := by
  induction steps generalizing here with
  | nil => exact hwalk
  | cons step rest ih =>
    rw [walk] at hwalk ⊢
    cases hhere : tree.nodeAt? here with
    | none =>
      rw [hhere] at hwalk
      cases hwalk
    | some node =>
      rw [hhere] at hwalk
      cases node with
      | file text => cases hwalk
      | directory =>
        rw [h.directory here hhere]
        dsimp only at hwalk ⊢
        split_ifs at hwalk ⊢
        · exact ih hwalk
        · exact ih hwalk
        · exact ih hwalk

/-- **A path goes on leading where it led** as long as no directory is taken away. -/
theorem locate_of_keepsDirectories (h : KeepsDirectories tree later)
    (hlocate : tree.locate path = .ok place) : later.locate path = .ok place := by
  rw [locate] at hlocate ⊢
  split at hlocate
  · cases hlocate
  · rw [h.start]
    exact walk_of_keepsDirectories h hlocate

/-! ## Making directories -/

theorem keepsDirectories_makeWay (tree : FileTree) (here : Location) (steps : List String) :
    KeepsDirectories tree (tree.makeWay here steps).2 := by
  fun_induction makeWay tree here steps with
  | case1 tree here => exact .refl tree
  | case2 tree here rest ih => exact ih
  | case3 tree here rest hdot ih => exact ih
  | case4 tree here step rest hdot hup hlong => exact .refl tree
  | case5 tree here step rest hdot hup hlong next text hnext => exact .refl tree
  | case6 tree here step rest hdot hup hlong next hnext ih => exact ih
  | case7 tree here step rest hdot hup hlong next hnext ih =>
    exact (keepsDirectories_putAt fun _ ↦ rfl).trans ih

theorem textAt_makeWay (tree : FileTree) (here : Location) (steps : List String)
    (place : Location) : (tree.makeWay here steps).2.textAt place = tree.textAt place := by
  fun_induction makeWay tree here steps with
  | case1 tree here => rfl
  | case2 tree here rest ih => exact ih
  | case3 tree here rest hdot ih => exact ih
  | case4 tree here step rest hdot hup hlong => rfl
  | case5 tree here step rest hdot hup hlong next text hnext => rfl
  | case6 tree here step rest hdot hup hlong next hnext ih => exact ih
  | case7 tree here step rest hdot hup hlong next hnext ih =>
    exact ih.trans (textAt_putAt_of_none hnext (.inl rfl) place)

/-- Directories that were made once need not be made again. -/
theorem makeWay_again {steps : List String} (h : tree.makeWay here steps = (true, made))
    (hkeeps : KeepsDirectories made later) : later.makeWay here steps = (true, later) := by
  fun_induction makeWay tree here steps with
  | case1 tree here => rfl
  | case2 tree here rest ih => rw [makeWay, if_pos rfl, ih h]
  | case3 tree here rest hdot ih => rw [makeWay, if_neg hdot, if_pos rfl, ih h]
  | case4 tree here step rest hdot hup hlong => cases h
  | case5 tree here step rest hdot hup hlong next text hnext => cases h
  | case6 tree here step rest hdot hup hlong next hnext ih =>
    have hmade : made.nodeAt? next = some .directory := by
      have hkept := (keepsDirectories_makeWay tree next rest).directory next hnext
      rwa [h] at hkept
    rw [makeWay, if_neg hdot, if_neg hup, if_neg hlong]
    dsimp only
    rw [hkeeps.directory next hmade, ih h]
  | case7 tree here step rest hdot hup hlong next hnext ih =>
    have hmade : made.nodeAt? next = some .directory := by
      have hkept := (keepsDirectories_makeWay (tree.putAt next .directory) next rest).directory next
        (nodeAt?_putAt_self (ne_nil_of_none hnext) .directory)
      rwa [h] at hkept
    rw [makeWay, if_neg hdot, if_neg hup, if_neg hlong]
    dsimp only
    rw [hkeeps.directory next hmade, ih h]

theorem keepsDirectories_makeDirectory (tree : FileTree) (path : String) :
    KeepsDirectories tree (tree.makeDirectory path).2 := by
  rw [makeDirectory]
  split
  · exact .refl tree
  · exact keepsDirectories_makeWay _ _ _

theorem textAt_makeDirectory (tree : FileTree) (path : String) (place : Location) :
    (tree.makeDirectory path).2.textAt place = tree.textAt place := by
  rw [makeDirectory]
  split
  · rfl
  · exact textAt_makeWay _ _ _ place

theorem makeDirectory_again (h : tree.makeDirectory path = (true, made))
    (hkeeps : KeepsDirectories made later) : later.makeDirectory path = (true, later) := by
  have hstart : later.start path = tree.start path := by
    have hmade := (keepsDirectories_makeDirectory tree path).start path
    rw [h] at hmade
    rw [hkeeps.start, hmade]
  rw [makeDirectory] at h ⊢
  split at h
  · cases h
  · rename_i hfault
    rw [if_neg hfault, hstart]
    exact makeWay_again h hkeeps

/-! ## Opening and appending -/

/-- What opening a file does when it works. -/
theorem openFile_cases (h : tree.openFile path = (true, made)) :
    ∃ place, tree.locate path = .ok place ∧
      (tree.nodeAt? place = none ∧ made = tree.putAt place (.file "") ∨
        (∃ text, tree.nodeAt? place = some (.file text)) ∧ made = tree) := by
  rw [openFile] at h
  split at h
  · cases h
  · rename_i place hlocate
    split at h
    · rename_i hnone
      exact ⟨place, hlocate, .inl ⟨hnone, (Prod.mk.inj h).2.symm⟩⟩
    · rename_i text hfile
      exact ⟨place, hlocate, .inr ⟨⟨text, hfile⟩, (Prod.mk.inj h).2.symm⟩⟩
    · cases h

theorem keepsDirectories_openFile (h : tree.openFile path = (true, made)) :
    KeepsDirectories tree made := by
  obtain ⟨place, -, ⟨hnone, rfl⟩ | ⟨-, rfl⟩⟩ := openFile_cases h
  · exact keepsDirectories_putAt fun hdirectory ↦ nomatch hnone.symm.trans hdirectory
  · exact .refl _

theorem textAt_openFile (h : tree.openFile path = (true, made)) (other : Location) :
    made.textAt other = tree.textAt other := by
  obtain ⟨place, -, ⟨hnone, rfl⟩ | ⟨-, rfl⟩⟩ := openFile_cases h
  · exact textAt_putAt_of_none hnone (.inr rfl) other
  · rfl

/-- An opened file is there. -/
theorem exists_file_of_openFile (h : tree.openFile path = (true, made)) :
    ∃ place text, made.locate path = .ok place ∧ made.nodeAt? place = some (.file text) := by
  have hkeeps := keepsDirectories_openFile h
  obtain ⟨place, hlocate, ⟨hnone, rfl⟩ | ⟨⟨text, hfile⟩, rfl⟩⟩ := openFile_cases h
  · exact ⟨place, "", locate_of_keepsDirectories hkeeps hlocate,
      nodeAt?_putAt_self (ne_nil_of_none hnone) _⟩
  · exact ⟨place, text, hlocate, hfile⟩

/-- Opening a file that is there changes nothing. -/
theorem openFile_of_file {text : String} (hlocate : tree.locate path = .ok place)
    (hfile : tree.nodeAt? place = some (.file text)) : tree.openFile path = (true, tree) := by
  rw [openFile, hlocate]
  dsimp only
  rw [hfile]

theorem append_eq {before : String} (hlocate : tree.locate path = .ok place)
    (hfile : tree.nodeAt? place = some (.file before)) (text : String) :
    tree.append path text = tree.putAt place (.file (before ++ text)) := by
  rw [append, hlocate]
  dsimp only
  rw [hfile]

theorem keepsDirectories_append {before : String} (hlocate : tree.locate path = .ok place)
    (hfile : tree.nodeAt? place = some (.file before)) (text : String) :
    KeepsDirectories tree (tree.append path text) := by
  rw [append_eq hlocate hfile]
  exact keepsDirectories_putAt fun hdirectory ↦ nomatch hfile.symm.trans hdirectory

end Phrasebook.FileTree
