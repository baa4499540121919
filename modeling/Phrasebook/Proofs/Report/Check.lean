import Phrasebook.Program

/-!
# What the check of a file reports

Checking a file builds its snapshot strictly. When that works the snapshot has all that was found,
and when it fails only the faults are handed on. So the report says everything about a file without
faults, and about a file with faults it leaves out the warnings, and counts none.

## Telling reports apart

That a report is incomplete is said of its text. The texts of two reports part where the one goes on
with a warning and the other with its summary, and there they differ in the first character, or in
the style that is switched on (`issue_append_ne_summary`).
-/

namespace Phrasebook

theorem Issue.severity_of_not_isError {issue : Issue} (h : issue.isError = false) :
    issue.severity = .warning := by
  rw [isError, decide_eq_false_iff_not] at h
  cases hseverity : issue.severity with
  | error => exact absurd hseverity h
  | warning => rfl

namespace Report.Painter

variable (painter : Painter)

/-- The last line of a report. -/
def summary (color : Color) (checked errors warnings : Nat) : String :=
  painter.tinted color
    s!"{checked} alias(es) checked, {errors} error(s), {warnings} warning(s)" ++ "\n"

/-- A report has a line for each fault, then one for each warning, and then the summary. -/
theorem issues_eq (found : List Issue) (checked : Nat) :
    painter.issues found checked =
      String.join ((found.filter Issue.isError).map painter.issue) ++
        (String.join ((found.filter fun issue ↦ !issue.isError).map painter.issue) ++
          painter.summary (if (found.filter Issue.isError).isEmpty then .green else .red) checked
            (found.filter Issue.isError).length
            (found.filter fun issue ↦ !issue.isError).length) := by
  rw [Painter.issues, List.map_append, String.join_append, summary, String.append_assoc,
    String.append_assoc]

/-! ## Telling reports apart -/

theorem exists_toList_issue {issue : Issue} (h : issue.isError = false) :
    (painter.shown = true → ∃ rest, (painter.issue issue).toList = '\x1b' :: '[' :: '1' :: rest) ∧
      (painter.shown = false → ∃ rest, (painter.issue issue).toList = 'w' :: rest) := by
  have hon : ({ bold := true, color := some .yellow } : Style).on.toList =
      ['\x1b', '[', '1', ';', '3', '3', 'm'] := by decide
  have hlabel : Severity.warning.label.toList = ['w', 'a', 'r', 'n', 'i', 'n', 'g'] := by decide
  rw [Painter.issue, Issue.severity_of_not_isError h]
  constructor
  · intro hshown
    simp [heading, Style.paint, hshown, hon]
  · intro hshown
    simp [heading, Style.paint, hshown, hlabel]

theorem exists_toList_summary (color : Color) (checked errors warnings : Nat) :
    (painter.shown = true → ∃ rest,
      (painter.summary color checked errors warnings).toList = '\x1b' :: '[' :: '3' :: rest) ∧
    (painter.shown = false → ∃ digit rest,
      (painter.summary color checked errors warnings).toList = digit :: rest ∧
        digit.isDigit = true) := by
  constructor
  · intro hshown
    obtain ⟨code, hon⟩ : ∃ code,
        ({ color := some color } : Style).on.toList = '\x1b' :: '[' :: '3' :: code := by
      cases color with
      | red | green | yellow | cyan => exact ⟨_, rfl⟩
    simp [summary, tinted, Style.paint, hshown, hon]
  · intro hshown
    have hne : Nat.toDigits 10 checked ≠ [] := Nat.toDigits_ne_nil
    obtain ⟨digit, digits, hdigits⟩ := List.exists_cons_of_ne_nil hne
    have hdigit : digit.isDigit = true := by
      have hmem : digit ∈ Nat.toDigits 10 checked := by
        rw [hdigits]
        exact List.mem_cons_self
      exact Nat.isDigit_of_mem_toDigits (by decide) (by decide) hmem
    refine ⟨digit, ?_⟩
    simp [summary, tinted, Style.paint, hshown, hdigits, hdigit]

/-- What goes on with a warning is not the summary. -/
theorem issue_append_ne_summary {issue : Issue} (h : issue.isError = false) (rest : String)
    (color : Color) (checked errors warnings : Nat) :
    painter.issue issue ++ rest ≠ painter.summary color checked errors warnings := by
  intro heq
  have htexts := congrArg String.toList heq
  rw [String.toList_append] at htexts
  cases hshown : painter.shown with
  | true =>
    obtain ⟨line, hline⟩ := (painter.exists_toList_issue h).1 hshown
    obtain ⟨last, hlast⟩ := (painter.exists_toList_summary color checked errors warnings).1 hshown
    rw [hline, hlast] at htexts
    simp at htexts
  | false =>
    obtain ⟨line, hline⟩ := (painter.exists_toList_issue h).2 hshown
    obtain ⟨digit, last, hlast, hdigit⟩ :=
      (painter.exists_toList_summary color checked errors warnings).2 hshown
    rw [hline, hlast] at htexts
    rw [← (List.cons.inj htexts).1] at hdigit
    exact absurd hdigit (by decide)

/-- The report of some faults has nothing else to say. -/
theorem issues_filter_isError {found : List Issue} (checked : Nat)
    (h : found.filter Issue.isError ≠ []) :
    painter.issues (found.filter Issue.isError) checked =
      String.join ((found.filter Issue.isError).map painter.issue) ++
        painter.summary .red checked (found.filter Issue.isError).length 0 := by
  have hfaults : (found.filter Issue.isError).filter Issue.isError = found.filter Issue.isError :=
    List.filter_eq_self.mpr fun issue hissue ↦ (List.mem_filter.mp hissue).2
  have hnone : ((found.filter Issue.isError).filter fun issue ↦ !issue.isError) = [] := by
    rw [List.filter_filter]
    simp
  rw [issues_eq, hfaults, hnone, List.isEmpty_eq_false_iff.mpr h, List.map_nil, String.join_nil,
    String.empty_append]
  rfl

/-- Faults make no complete report where there are warnings as well. -/
theorem issues_filter_isError_eq_iff {found : List Issue} (checked : Nat)
    (h : found.filter Issue.isError ≠ []) :
    painter.issues (found.filter Issue.isError) checked = painter.issues found checked ↔
      (found.filter fun issue ↦ !issue.isError) = [] := by
  rw [painter.issues_filter_isError checked h, issues_eq, List.isEmpty_eq_false_iff.mpr h,
    String.append_right_inj]
  cases hwarnings : found.filter fun issue ↦ !issue.isError with
  | nil => simp
  | cons warning rest =>
    have hmem : warning ∈ found.filter fun issue ↦ !issue.isError := by
      rw [hwarnings]
      exact List.mem_cons_self
    have hwarning : warning.isError = false := by
      simpa using (List.mem_filter.mp hmem).2
    refine iff_of_false ?_ (List.cons_ne_nil _ _)
    rw [List.map_cons, String.join_cons, String.append_assoc]
    exact (painter.issue_append_ne_summary hwarning _ _ _ _ _).symm

end Report.Painter

/-! ## The check of a file -/

namespace Program

section

variable (painter : Report.Painter) (path : String) {aliases : List Alias}

theorem checkFile_of_errors_eq_nil (h : (Snapshot.build 0 aliases).errors = []) :
    checkFile painter path (.ok aliases) =
      { output := painter.issues (Snapshot.build 0 aliases).issues aliases.length } := by
  rw [checkFile, Snapshot.buildStrict, h]
  rfl

theorem checkFile_of_errors_ne_nil (h : (Snapshot.build 0 aliases).errors ≠ []) :
    checkFile painter path (.ok aliases) =
      failed s!"{path}: {(Snapshot.build 0 aliases).errors.length} alias(es) failed validation" none
        (painter.issues (Snapshot.build 0 aliases).errors aliases.length) := by
  rw [checkFile, Snapshot.buildStrict, if_neg (by simpa using h)]
  simp only [Snapshot.strictMessage, String.append_assoc]
  rfl

end

/-- **What the check of a file comes to.** It fails exactly if there is a fault. Its output has a
line for each fault in the order in which they were found, and without any a line for each warning,
and then the number of aliases and how many lines of either kind there are. So it has all that was
found, and the right numbers, exactly if there are no faults or no warnings. -/
theorem checkFile_complete_iff (painter : Report.Painter) (path : String) (aliases : List Alias) :
    let found := (Snapshot.build 0 aliases).issues
    let errors := found.filter Issue.isError
    let warnings := found.filter fun issue ↦ !issue.isError
    let run := checkFile painter path (.ok aliases)
    run.failure = (if errors = [] then none
      else some ⟨s!"{path}: {errors.length} alias(es) failed validation", none⟩) ∧
    run.status = (if errors = [] then 0 else 1) ∧
    run.output = (if errors = [] then
        String.join (warnings.map painter.issue) ++
          painter.summary .green aliases.length 0 warnings.length
      else
        String.join (errors.map painter.issue) ++
          painter.summary .red aliases.length errors.length 0) ∧
    (run.output = String.join (errors.map painter.issue) ++
        String.join (warnings.map painter.issue) ++
        painter.summary (if errors = [] then .green else .red) aliases.length errors.length
          warnings.length ↔
      errors = [] ∨ warnings = []) := by
  intro found errors warnings run
  have hcomplete : painter.issues found aliases.length =
      String.join (errors.map painter.issue) ++ String.join (warnings.map painter.issue) ++
        painter.summary (if errors = [] then .green else .red) aliases.length errors.length
          warnings.length := by
    rw [painter.issues_eq, String.append_assoc]
    simp only [List.isEmpty_iff, errors, warnings]
  rw [← hcomplete]
  by_cases hnone : errors = []
  · have hrun : run = { output := painter.issues found aliases.length } :=
      checkFile_of_errors_eq_nil painter path hnone
    rw [hrun, if_pos hnone, if_pos hnone, if_pos hnone]
    refine ⟨rfl, rfl, ?_, iff_of_true rfl (Or.inl hnone)⟩
    simp [hcomplete, hnone]
  · have hrun : run = failed s!"{path}: {errors.length} alias(es) failed validation" none
        (painter.issues errors aliases.length) := checkFile_of_errors_ne_nil painter path hnone
    rw [hrun, if_neg hnone, if_neg hnone, if_neg hnone]
    refine ⟨rfl, rfl, painter.issues_filter_isError aliases.length hnone, ?_⟩
    rw [failed, or_iff_right hnone]
    exact painter.issues_filter_isError_eq_iff aliases.length hnone

/-- An alias without actions and one that cannot be read: the warning about the first is not shown
and not counted. -/
theorem not_complete_of_mixed :
    ¬∀ (painter : Report.Painter) (path : String) (aliases : List Alias),
      (checkFile painter path (.ok aliases)).output =
        painter.issues (Snapshot.build 0 aliases).issues aliases.length := by
  intro h
  have hsame := h ⟨false⟩ "aliases.toml" [{ pattern := "my tasks" }, { pattern := "\x7b" }]
  revert hsame
  decide +kernel

end Program

end Phrasebook
