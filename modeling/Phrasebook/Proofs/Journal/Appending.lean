import Mathlib.Data.List.Forall2
import Phrasebook.FileTree
import Phrasebook.Journal
import Phrasebook.Proofs.FileTree.Writing
import Phrasebook.Proofs.Json.Printing

/-!
# Journals only grow

Whoever opens a journal and writes events into it adds lines at its end, one for each event, and
whatever was in it stays (`lines_run_sessions`). That holds from session to session, because an open
journal can be opened again without any change to it (`IsOpen.start`), and because every line that
is written ends, so that the next one starts on its own.

## Representation

The machine is a file tree with a clock that moves, so that every event may have a time of its own.
What a journal holds is told by the place that its path leads to once it is open. Before that the
path may lead nowhere: directories on the way may be missing, which are made when it is opened.
-/

namespace Phrasebook

/-! ## Lines -/

namespace Text

/-- The lines of a text. A line is what stands before a line break, and what stands behind the last
one if there is anything. -/
def lines (text : String) : List String :=
  let parts := text.toList.splitOn '\n'
  (if parts.getLast? = some [] then parts.dropLast else parts).map String.ofList

/-- The last line of the text is over, if there is one. -/
def EndsLines (text : String) : Prop := text = "" ∨ ∃ before, text = before ++ "\n"

theorem lines_append_break (text : String) :
    lines (text ++ "\n") = (text.toList.splitOn '\n').map String.ofList := by
  have hparts : (text ++ "\n").toList.splitOn '\n' = text.toList.splitOn '\n' ++ [[]] := by
    rw [String.toList_append]
    exact List.splitOnP_append_cons _ _ (beq_self_eq_true '\n')
  rw [lines, hparts, List.getLast?_concat, if_pos rfl, List.dropLast_concat]

/-- A line that is added behind others leaves them as they are. -/
theorem lines_append_line {before line : String} (hbefore : EndsLines before)
    (hline : '\n' ∉ line.toList) : lines (before ++ (line ++ "\n")) = lines before ++ [line] := by
  have hsplit : line.toList.splitOn '\n' = [line.toList] :=
    List.splitOnP_eq_singleton fun c hc ↦ beq_eq_false_iff_ne.mpr fun heq ↦ hline (heq ▸ hc)
  have hone : (line.toList.splitOn '\n').map String.ofList = [line] := by
    rw [hsplit, List.map_singleton, String.ofList_toList]
  rcases hbefore with rfl | ⟨text, rfl⟩
  · rw [String.empty_append, lines_append_break, hone]
    rfl
  · have hparts : (text ++ "\n" ++ line).toList.splitOn '\n' =
        text.toList.splitOn '\n' ++ line.toList.splitOn '\n' := by
      rw [String.toList_append, String.toList_append, List.append_assoc]
      exact List.splitOnP_append_cons _ _ (beq_self_eq_true '\n')
    rw [← String.append_assoc, lines_append_break, hparts, List.map_append, hone,
      lines_append_break]

end Text

/-! ## Records -/

open Text

/-- The line is an object with the parts of the event and a time, and with nothing else. -/
def Event.IsRecordedBy (event : Event) (line : String) : Prop :=
  ∃ time, Json.read? line = some (.obj [
    ("alias_ids", Json.texts event.aliasIds),
    ("context", Json.texts event.context),
    ("degraded", .bool event.degraded),
    ("layer", .str event.layer),
    ("outcome", .str event.outcome),
    ("request", .str event.request),
    ("snapshot_version", .int event.snapshotVersion.toNat),
    ("timestamp", .str time)])

theorem Json.isExact_texts {depth : Nat} (items : List String) :
    Json.IsExact (depth + 1) (Json.texts items) :=
  .arr (List.forall_mem_map.mpr fun s _ ↦ .str s)

theorem Event.isExact_fields (event : Event) (time : String) :
    Json.IsExact Json.maxDepth (.obj (event.fields ++ [("timestamp", .str time)])) := by
  have hversion : ((event.snapshotVersion.toNat : Nat) : Int) < UInt64.size :=
    Int.ofNat_lt.mpr event.snapshotVersion.toNat_lt_size
  have hlow : -(Json.signedBound : Int) ≤ (event.snapshotVersion.toNat : Nat) := by omega
  refine .obj ?_
  simp only [Event.fields, List.cons_append, List.nil_append, List.forall_mem_cons]
  exact ⟨Json.isExact_texts _, Json.isExact_texts _, .bool _, .str _, .str _, .str _,
    .int hlow hversion, .str _, List.forall_mem_nil _⟩

/-- **A line tells the event**, whatever texts are in it. -/
theorem Event.isRecordedBy_line (event : Event) (time : String) :
    event.IsRecordedBy (event.line time) :=
  ⟨time, Json.read?_compact (event.isExact_fields time)⟩

theorem Event.not_mem_line (event : Event) (time : String) : '\n' ∉ (event.line time).toList := by
  intro hmem
  rw [Event.line, Json.compact, String.toList_ofList] at hmem
  exact absurd (Json.forall_mem_compactChars (event.isExact_fields time) '\n' hmem) (by decide)

/-- The second text is the first one with one more line for each of the events, and its last line is
over. -/
structure Journal.AddsLines (before after : String) (events : List Event) : Prop where
  ended : EndsLines after
  recorded : ∃ recorded, lines after = lines before ++ recorded ∧
    List.Forall₂ Event.IsRecordedBy events recorded

namespace Journal

theorem AddsLines.refl {before : String} (h : EndsLines before) : AddsLines before before [] where
  ended := h
  recorded := ⟨[], (List.append_nil _).symm, .nil⟩

theorem AddsLines.trans {before text after : String} {events events' : List Event}
    (h : AddsLines before text events) (h' : AddsLines text after events') :
    AddsLines before after (events ++ events') := by
  obtain ⟨-, recorded, hlines, hrecorded⟩ := h
  obtain ⟨hended, recorded', hlines', hrecorded'⟩ := h'
  refine ⟨hended, recorded ++ recorded', ?_, List.rel_append hrecorded hrecorded'⟩
  rw [hlines', hlines, List.append_assoc]

theorem addsLines_line {before : String} (h : EndsLines before) (event : Event) (time : String) :
    AddsLines before (before ++ (event.line time ++ "\n")) [event] where
  ended := .inr ⟨before ++ event.line time, String.append_assoc.symm⟩
  recorded := ⟨[event.line time], lines_append_line h (event.not_mem_line time),
    .cons (event.isRecordedBy_line time) .nil⟩

end Journal

/-! ## A machine with a clock that moves -/

/-- A file tree, and the times that the clock is going to show. -/
structure ClockedTree where
  tree : FileTree
  times : Nat → String

instance : Host (StateM ClockedTree) where
  kindOf path := do return (← get).tree.kindOf path
  read path := do return (← get).tree.read path
  makeDirectory path := modifyGet fun machine ↦
    let (made, tree) := machine.tree.makeDirectory path
    (made, { machine with tree := tree })
  openFile path := modifyGet fun machine ↦
    let (opened, tree) := machine.tree.openFile path
    (opened, { machine with tree := tree })
  append path text := modify fun machine ↦
    { machine with tree := machine.tree.append path text }
  workingDirectory := do
    return "/" ++ String.intercalate "/" (← get).tree.workingDirectory
  timestamp := modifyGet fun machine ↦
    (machine.times 0, { machine with times := fun n ↦ machine.times (n + 1) })

namespace Journal

section Programs

variable {m : Type → Type} [Monad m] [Host m]

/-- One session: the journal is opened, and if that works, some events are written. -/
def session (path : String) (events : List Event) : m Unit := do
  if ← start path then writeAll path events else pure ()

/-- One session after the other, each with its own events. -/
def sessions (path : String) : List (List Event) → m Unit
  | [] => pure ()
  | events :: rest => do
    session path events
    sessions path rest

end Programs

variable {path : String} {place : Location} {text : String} {tree : FileTree}
  {machine opened : ClockedTree}

/-! ## Open journals -/

/-- The directory that has to be there before the journal can be. -/
def above (path : String) : String := (Path.parent? path).getD ""

theorem run_start (path : String) (machine : ClockedTree) :
    (start path : StateM ClockedTree Bool).run machine =
      match machine.tree.makeDirectory (above path) with
      | (false, ready) => (false, { machine with tree := ready })
      | (true, ready) =>
        ((ready.openFile path).1, { machine with tree := (ready.openFile path).2 }) := by
  rw [start, above]
  cases Path.parent? path with
  | none => rfl
  | some parent =>
    by_cases hempty : parent.isEmpty
    · obtain rfl := String.isEmpty_iff.mp hempty
      rfl
    · have hmake : (Host.makeDirectory parent : StateM ClockedTree Bool).run machine =
          ((machine.tree.makeDirectory parent).1,
            { machine with tree := (machine.tree.makeDirectory parent).2 }) := rfl
      rw [Option.getD_some]
      simp only [if_neg hempty]
      rw [StateT.run_bind, hmake]
      cases machine.tree.makeDirectory parent with
      | mk ready tree => cases ready <;> rfl

/-- The journal is the file at the place and holds the text, and the directories on the way to it
are there. -/
structure IsOpen (path : String) (place : Location) (text : String) (tree : FileTree) : Prop where
  ready : tree.makeDirectory (above path) = (true, tree)
  locate : tree.locate path = .ok place
  file : tree.nodeAt? place = some (.file text)

/-- Opening works, and the journal is then at the place. -/
def OpensAt (path : String) (place : Location) (machine : ClockedTree) : Prop :=
  ∃ opened, (start path : StateM ClockedTree Bool).run machine = (true, opened) ∧
    opened.tree.locate path = .ok place

/-- What is done when opening works: the directory is made, and then the file. -/
theorem start_cases (h : (start path : StateM ClockedTree Bool).run machine = (true, opened)) :
    ∃ ready, machine.tree.makeDirectory (above path) = (true, ready) ∧
      ready.openFile path = (true, opened.tree) := by
  rw [run_start] at h
  split at h
  · cases h
  · rename_i ready hready
    obtain ⟨hopened, rfl⟩ := Prod.mk.inj h
    exact ⟨ready, hready, Prod.ext hopened rfl⟩

/-- What is opened holds what it held before. -/
theorem isOpen_of_start (h : (start path : StateM ClockedTree Bool).run machine = (true, opened))
    (hlocate : opened.tree.locate path = .ok place) :
    IsOpen path place (machine.tree.textAt place) opened.tree := by
  obtain ⟨ready, hready, hopen⟩ := start_cases h
  have htext : opened.tree.textAt place = machine.tree.textAt place := by
    have hmade := FileTree.textAt_makeDirectory machine.tree (above path) place
    rw [hready] at hmade
    rw [FileTree.textAt_openFile hopen, hmade]
  obtain ⟨place', text, hlocate', hfile⟩ := FileTree.exists_file_of_openFile hopen
  obtain rfl := Except.ok.inj (hlocate'.symm.trans hlocate)
  rw [← htext, FileTree.textAt_of_file hfile]
  exact ⟨FileTree.makeDirectory_again hready (FileTree.keepsDirectories_openFile hopen), hlocate,
    hfile⟩

/-- A path that leads to a file goes on leading to it when the journal is opened. -/
theorem OpensAt.textAt_eq_of_read (h : OpensAt path place machine)
    (hread : machine.tree.read path = .ok text) : machine.tree.textAt place = text := by
  obtain ⟨opened, hstart, hlocate⟩ := h
  obtain ⟨ready, hready, hopen⟩ := start_cases hstart
  obtain ⟨place', hlocate', hfile⟩ := FileTree.exists_file_of_read hread
  have hkeeps : FileTree.KeepsDirectories machine.tree opened.tree := by
    have hmade := FileTree.keepsDirectories_makeDirectory machine.tree (above path)
    rw [hready] at hmade
    exact hmade.trans (FileTree.keepsDirectories_openFile hopen)
  have hkept := FileTree.locate_of_keepsDirectories hkeeps hlocate'
  obtain rfl := Except.ok.inj (hkept.symm.trans hlocate)
  exact FileTree.textAt_of_file hfile

/-- An open journal can be opened again without any change. -/
theorem IsOpen.start (h : IsOpen path place text machine.tree) :
    (start path : StateM ClockedTree Bool).run machine = (true, machine) := by
  rw [run_start, h.ready]
  dsimp only
  rw [FileTree.openFile_of_file h.locate h.file]

/-- What is written comes behind what the journal holds. -/
theorem IsOpen.append (h : IsOpen path place text tree) (more : String) :
    IsOpen path place (text ++ more) (tree.append path more) := by
  have hkeeps := FileTree.keepsDirectories_append h.locate h.file more
  refine ⟨FileTree.makeDirectory_again h.ready hkeeps,
    FileTree.locate_of_keepsDirectories hkeeps h.locate, ?_⟩
  rw [FileTree.append_eq h.locate h.file]
  exact FileTree.nodeAt?_putAt_self (FileTree.ne_nil_of_file h.file) _

/-! ## Writing -/

/-- One event adds one line. -/
theorem IsOpen.write (h : IsOpen path place text machine.tree) (hended : EndsLines text)
    (event : Event) :
    ∃ after, IsOpen path place after
        ((write path event : StateM ClockedTree Unit).run machine).2.tree ∧
      AddsLines text after [event] :=
  ⟨_, h.append _, addsLines_line hended event (machine.times 0)⟩

/-- Some events add a line each. -/
theorem IsOpen.writeAll (h : IsOpen path place text machine.tree) (hended : EndsLines text)
    (events : List Event) :
    ∃ after, IsOpen path place after
        ((writeAll path events : StateM ClockedTree Unit).run machine).2.tree ∧
      AddsLines text after events := by
  induction events generalizing text machine with
  | nil => exact ⟨text, h, .refl hended⟩
  | cons event rest ih =>
    obtain ⟨written, hwritten, hadds⟩ := h.write hended event
    obtain ⟨after, hafter, hrest⟩ := ih hwritten hadds.ended
    exact ⟨after, hafter, hadds.trans hrest⟩

/-- A session is over when its events are written. -/
theorem run_session_of_start (events : List Event)
    (h : (start path : StateM ClockedTree Bool).run machine = (true, opened)) :
    (session path events : StateM ClockedTree Unit).run machine =
      (Journal.writeAll path events : StateM ClockedTree Unit).run opened := by
  rw [session, StateT.run_bind, h]
  rfl

/-- Each session adds its lines. -/
theorem IsOpen.sessions (h : IsOpen path place text machine.tree) (hended : EndsLines text)
    (logged : List (List Event)) :
    ∃ after, IsOpen path place after
        ((sessions path logged : StateM ClockedTree Unit).run machine).2.tree ∧
      AddsLines text after logged.flatten := by
  induction logged generalizing text machine with
  | nil => exact ⟨text, h, .refl hended⟩
  | cons events rest ih =>
    have hsession := run_session_of_start events h.start
    obtain ⟨written, hwritten, hadds⟩ := h.writeAll hended events
    rw [← hsession] at hwritten
    obtain ⟨after, hafter, hrest⟩ := ih hwritten hadds.ended
    exact ⟨after, hafter, hadds.trans hrest⟩

/-- The tree after some sessions. -/
def treeAfter (path : String) (logged : List (List Event)) (machine : ClockedTree) : FileTree :=
  ((sessions path logged : StateM ClockedTree Unit).run machine).2.tree

/-- The first session makes the journal if it is not there; from then on it is open. -/
theorem OpensAt.sessions (h : OpensAt path place machine)
    (hended : EndsLines (machine.tree.textAt place)) {logged : List (List Event)}
    (hlogged : logged ≠ []) :
    ∃ after, IsOpen path place after (treeAfter path logged machine) ∧
      AddsLines (machine.tree.textAt place) after logged.flatten := by
  obtain ⟨opened, hstart, hlocate⟩ := h
  obtain ⟨events, rest, rfl⟩ := List.exists_cons_of_ne_nil hlogged
  have hsession := run_session_of_start events hstart
  obtain ⟨written, hwritten, hadds⟩ := (isOpen_of_start hstart hlocate).writeAll hended events
  rw [← hsession] at hwritten
  obtain ⟨after, hafter, hrest⟩ := hwritten.sessions hadds.ended rest
  exact ⟨after, hafter, hadds.trans hrest⟩

/-- **Journals only grow.** If a journal can be opened and its last line is over, then after any
sessions it has the lines that it had, and behind them one line for each event, in order, which
tells that event and nothing else. The text at the place is what reading the path gives, before as
soon as the path leads to a file, and after. -/
theorem lines_run_sessions (hopens : OpensAt path place machine)
    (hended : EndsLines (machine.tree.textAt place)) (logged : List (List Event)) :
    (∀ before, machine.tree.read path = .ok before → before = machine.tree.textAt place) ∧
      (logged ≠ [] → (treeAfter path logged machine).read path =
        .ok ((treeAfter path logged machine).textAt place)) ∧
      ∃ recorded, lines ((treeAfter path logged machine).textAt place) =
          lines (machine.tree.textAt place) ++ recorded ∧
        List.Forall₂ Event.IsRecordedBy logged.flatten recorded := by
  refine ⟨fun before hread ↦ (hopens.textAt_eq_of_read hread).symm, ?_⟩
  by_cases hlogged : logged = []
  · subst hlogged
    exact ⟨fun hne ↦ absurd rfl hne, [], (List.append_nil _).symm, .nil⟩
  · obtain ⟨after, hopen, hadds⟩ := hopens.sessions hended hlogged
    rw [FileTree.textAt_of_file hopen.file]
    exact ⟨fun _ ↦ FileTree.read_eq_ok hopen.locate hopen.file, hadds.recorded⟩

/-- Two sessions, the first of which makes the journal, with texts that would break a line or end a
string if they were written as they are. -/
theorem lines_run_sessions_hostile :
    let machine : ClockedTree := ⟨⟨[(["log"], .directory)], [], ""⟩, fun _ ↦ "\"\n\""⟩
    let logged : List (List Event) :=
      [[⟨"say \"\n\"", "\x00", ["\\"], "exact", ["\x1f\n"], 1, false⟩],
        [⟨"\n", "", [], "", [], 0xffffffffffffffff, true⟩]]
    OpensAt "log/journal" ["log", "journal"] machine ∧
      EndsLines (machine.tree.textAt ["log", "journal"]) ∧
      ∃ recorded, lines ((treeAfter "log/journal" logged machine).textAt ["log", "journal"]) =
          lines (machine.tree.textAt ["log", "journal"]) ++ recorded ∧
        List.Forall₂ Event.IsRecordedBy logged.flatten recorded := by
  intro machine logged
  have hopens : OpensAt "log/journal" ["log", "journal"] machine := ⟨_, rfl, rfl⟩
  have hended : EndsLines (machine.tree.textAt ["log", "journal"]) := .inl rfl
  exact ⟨hopens, hended, (lines_run_sessions hopens hended logged).2.2⟩

end Journal

end Phrasebook
