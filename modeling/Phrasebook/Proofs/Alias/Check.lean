import Phrasebook.Proofs.Pattern.Captures
import Phrasebook.Proofs.Snapshot.Accounting

/-!
# What the check of an alias reports

An alias is consistent when its phrase can be read and its actions refer to nothing but the
placeholders of the phrase. The check accepts the consistent aliases, and to the author it says of
each action what is the matter with it. Here that is put down without the check: which names an
action refers to in vain is said by the references in the texts of its parameters, and the order of
the names alone makes the report definite.

The engine that is to match the phrase is known by its decisions only, by what expressions it has
room for. All that is asked of it is that it has room for the phrase. When it has none, that is the
only thing reported, for a consistent alias too.
-/

namespace Phrasebook

/-- What is the matter, and how serious it is. -/
abbrev Finding := Severity × Cause

/-- What an issue finds. -/
def Issue.finding (issue : Issue) : Finding := (issue.severity, issue.cause)

/-! ## Actions -/

namespace Action

/-- The action refers to the name in a text of its parameters, however deep that text stands. -/
def RefersTo (action : Action) (name : String) : Prop :=
  ∃ text, Json.HasText text (.obj action.params.entries) ∧ Substitution.Refers text name

/-- What is to be reported about an action of the alias, whose phrase has the given segments: each
name that it refers to in vain, once and in ascending order, and then its tool if the alias does not
declare it. -/
def Reports (a : Alias) (segments : List Segment) (action : Action) (found : List Finding) : Prop :=
  ∃ undeclared : List String, undeclared.Pairwise (· < ·) ∧
    (∀ name, name ∈ undeclared ↔
      action.RefersTo name ∧ name ∉ Pattern.placeholderNames segments) ∧
    found = undeclared.map
        (fun name ↦ (.error, .undeclaredPlaceholder action.tool name a.pattern)) ++
      if action.tool ∈ a.toolsRequired then [] else [(.warning, .undeclaredTool action.tool)]

variable {a : Alias} {pattern : Pattern} {action : Action}

theorem mem_undeclared_iff {name : String} :
    name ∈ (Substitution.namesWithin (.obj action.params.entries)).toList.filter
        (fun name ↦ !pattern.placeholders.contains name) ↔
      action.RefersTo name ∧ name ∉ Pattern.placeholderNames pattern.segments := by
  have hplaceholder : name ∈ pattern.placeholders ↔
      name ∈ Pattern.placeholderNames pattern.segments := List.mem_eraseDups
  rw [List.mem_filter, NameSet.mem_toList, Substitution.mem_namesWithin_iff, ← hplaceholder]
  simp [RefersTo]

/-- The check of an action finds what is to be reported about it. -/
theorem reports_causes : Reports a pattern.segments action
    ((action.causes a pattern.placeholders).map fun cause ↦ (cause.severity, cause)) := by
  refine ⟨_, (Substitution.namesWithin (.obj action.params.entries)).ascending.filter
    (fun name ↦ !pattern.placeholders.contains name), fun name ↦ mem_undeclared_iff, ?_⟩
  rw [causes, List.map_append, List.map_map]
  by_cases hdeclared : action.tool ∈ a.toolsRequired
  · simp [hdeclared, NameSet.contains, Function.comp_def, Cause.severity]
  · simp [hdeclared, NameSet.contains, Function.comp_def, Cause.severity]

/-- A fault of an action is a name that it refers to in vain. -/
theorem exists_refersTo_of_error {cause : Cause}
    (hcause : cause ∈ action.causes a pattern.placeholders) (herror : cause.severity = .error) :
    ∃ name, action.RefersTo name ∧ name ∉ Pattern.placeholderNames pattern.segments := by
  rw [causes, List.mem_append] at hcause
  rcases hcause with hname | htool
  · obtain ⟨name, hname, -⟩ := List.mem_map.mp hname
    exact ⟨name, mem_undeclared_iff.mp hname⟩
  · split at htool
    · exact absurd htool List.not_mem_nil
    · rw [List.mem_singleton.mp htool] at herror
      cases herror

end Action

/-! ## Aliases -/

namespace Alias

/-- The engine has room for the phrase, if the phrase can be read at all. -/
def WithinLimit (fits : Expression → Bool) (a : Alias) : Prop :=
  ∀ segments, Template.segments a.pattern = .ok segments →
    fits (Expression.ofSegments segments) = true

/-- The phrase can be read, and the actions refer to its placeholders only. -/
def Consistent (a : Alias) : Prop :=
  ∃ segments, Template.segments a.pattern = .ok segments ∧
    ∀ action ∈ a.actions, ∀ name, action.RefersTo name →
      name ∈ Pattern.placeholderNames segments

/-- What is to be reported about the alias: that its phrase cannot be read, or else what there is
about each action in turn, and last that there are no actions. -/
def Reports (a : Alias) (found : List Finding) : Prop :=
  match Template.segments a.pattern with
  | .error error => found = [(.error, .invalidPattern a.pattern (.template error))]
  | .ok segments => ∃ blocks : List (List Finding),
    List.Forall₂ (Action.Reports a segments) a.actions blocks ∧
      found = blocks.flatten ++ if a.actions = [] then [(.warning, .noActions)] else []

variable {fits : Expression → Bool} {a : Alias}

theorem checkWith_of_segments_eq_error {error : TemplateError}
    (h : Template.segments a.pattern = .error error) :
    a.checkWith fits = (none, [⟨a.key, .invalidPattern a.pattern (.template error)⟩]) := by
  rw [checkWith, Pattern.compileWith_of_eq_error h]

theorem compileWith_of_segments_eq_ok (hlimit : a.WithinLimit fits) {segments : List Segment}
    (h : Template.segments a.pattern = .ok segments) :
    Pattern.compileWith fits a.pattern = .ok ⟨a.pattern, segments, h⟩ := by
  rw [Pattern.compileWith_of_eq_ok h, if_pos (hlimit segments h)]

/-- When there is no room for the phrase, nothing else is reported. -/
theorem checkWith_of_not_withinLimit (h : ¬a.WithinLimit fits) :
    a.checkWith fits = (none, [⟨a.key, .invalidPattern a.pattern .tooLarge⟩]) := by
  rw [WithinLimit] at h
  push Not at h
  obtain ⟨segments, hsegments, hfits⟩ := h
  rw [checkWith, Pattern.compileWith_of_eq_ok hsegments, if_neg hfits]

/-- What is found in an alias whose phrase could be read is what is to be reported about it. -/
theorem reports_causes {pattern : Pattern}
    (h : Template.segments a.pattern = .ok pattern.segments) :
    a.Reports ((a.causes pattern).map fun cause ↦ (cause.severity, cause)) := by
  rw [Reports, h]
  refine ⟨a.actions.map fun action ↦
    (action.causes a pattern.placeholders).map fun cause ↦ (cause.severity, cause), ?_, ?_⟩
  · rw [List.forall₂_map_right_iff, List.forall₂_same]
    exact fun action _ ↦ Action.reports_causes
  · rw [causes, List.map_append, List.map_flatMap, List.flatMap_def]
    congr 1
    by_cases hnone : a.actions = []
    · simp [hnone, Cause.severity]
    · simp [hnone]

/-- There is a fault in an alias whose phrase could be read exactly if an action refers to a name in
vain. -/
theorem forall_severity_ne_error_iff {pattern : Pattern} :
    (∀ cause ∈ a.causes pattern, cause.severity ≠ .error) ↔
      ∀ action ∈ a.actions, ∀ name, action.RefersTo name →
        name ∈ Pattern.placeholderNames pattern.segments := by
  constructor
  · intro hnone action haction name hrefers
    by_contra hundeclared
    refine hnone _ (undeclaredPlaceholder_mem_causes haction
      (Substitution.mem_namesWithin_iff.mpr hrefers) ?_) rfl
    rwa [Pattern.placeholders, List.mem_eraseDups]
  · intro hdeclared cause hcause herror
    rw [causes, List.mem_append] at hcause
    rcases hcause with haction | hempty
    · obtain ⟨action, haction, hcause⟩ := List.mem_flatMap.mp haction
      obtain ⟨name, hrefers, hundeclared⟩ := Action.exists_refersTo_of_error hcause herror
      exact hundeclared (hdeclared action haction name hrefers)
    · split at hempty
      · rw [List.mem_singleton.mp hempty] at herror
        cases herror
      · exact absurd hempty List.not_mem_nil

/-- The check accepts the consistent aliases with a phrase that there is room for. -/
theorem isSome_checkWith_iff :
    (a.checkWith fits).1.isSome = true ↔ a.WithinLimit fits ∧ a.Consistent := by
  rw [Option.isSome_iff_exists]
  constructor
  · rintro ⟨pattern, hpattern⟩
    have hlimit : a.WithinLimit fits := by
      by_contra hroom
      rw [checkWith_of_not_withinLimit hroom] at hpattern
      cases hpattern
    obtain ⟨hcompile, hnone⟩ := checkWith_eq_some_iff.mp hpattern
    refine ⟨hlimit, pattern.segments, ?_, forall_severity_ne_error_iff.mp hnone⟩
    rw [← (Pattern.compileWith_eq_ok_iff.mp hcompile).1, pattern.segments_eq]
  · rintro ⟨hlimit, segments, hsegments, hdeclared⟩
    exact ⟨_, checkWith_eq_some_iff.mpr
      ⟨compileWith_of_segments_eq_ok hlimit hsegments, forall_severity_ne_error_iff.mpr hdeclared⟩⟩

theorem reports_checkWith (hlimit : a.WithinLimit fits) :
    a.Reports ((a.checkWith fits).2.map Issue.finding) := by
  cases hsegments : Template.segments a.pattern with
  | error error =>
    rw [Reports, hsegments, checkWith_of_segments_eq_error hsegments]
    rfl
  | ok segments =>
    let pattern : Pattern := ⟨a.pattern, segments, hsegments⟩
    have hissues : (a.checkWith fits).2 = (a.causes pattern).map (Issue.mk a.key) := by
      rw [checkWith, compileWith_of_segments_eq_ok hlimit hsegments]
    have hreports : a.Reports ((a.causes pattern).map fun cause ↦ (cause.severity, cause)) :=
      reports_causes hsegments
    rw [hissues, List.map_map]
    exact hreports

/-- **The check accepts exactly the consistent aliases and reports exactly their faults.** Whatever
it reports has the key of the alias.

The engine may be any that has room for the phrase. The last part says which decisions the program
goes by. -/
theorem checkWith_accepts_consistent (fits : Expression → Bool) (a : Alias)
    (hlimit : a.WithinLimit fits) :
    ((a.checkWith fits).1.isSome = true ↔ a.Consistent) ∧
    (∀ pattern, (a.checkWith fits).1 = some pattern → pattern.source = a.pattern) ∧
    a.Reports ((a.checkWith fits).2.map Issue.finding) ∧
    (∀ issue ∈ (a.checkWith fits).2, issue.aliasId = a.key) ∧
    a.checkWith Expression.fits = a.check := by
  refine ⟨isSome_checkWith_iff.trans (and_iff_right hlimit), fun pattern hpattern ↦ ?_,
    reports_checkWith hlimit, fun issue ↦ aliasId_of_mem_checkWith, rfl⟩
  exact (Pattern.compileWith_eq_ok_iff.mp (checkWith_eq_some_iff.mp hpattern).1).1

/-- The first action refers to two names in vain, one of them twice and deep inside its parameters,
and its tool is not declared. -/
theorem checkWith_accepts_consistent_of_nested :
    let a : Alias :=
      { pattern := "move \x7bx\x7d"
        toolsRequired := NameSet.ofList ["log"]
        actions := [
          { tool := "move"
            params := NameMap.ofList [
              ("\x7bkey\x7d", .str "\x7b\x7bto\x7d"),
              ("path", .arr [.obj [("at", .str "\x7bx\x7d\x7bto\x7d\x7bby\x7d")]])] },
          { tool := "log", params := NameMap.ofList [("text", .str "\x7bx\x7d")] }] }
    a.WithinLimit Expression.fits ∧ ¬a.Consistent ∧
    a.Reports [
      (.error, .undeclaredPlaceholder "move" "by" "move \x7bx\x7d"),
      (.error, .undeclaredPlaceholder "move" "to" "move \x7bx\x7d"),
      (.warning, .undeclaredTool "move")] := by
  intro a
  have hlimit : a.WithinLimit Expression.fits := by
    intro segments hsegments
    obtain rfl : segments = [.literal "move ", .placeholder "x"] :=
      Except.ok.inj (hsegments.symm.trans (by decide))
    decide
  obtain ⟨haccepted, -, hreports, -, hcheck⟩ :=
    checkWith_accepts_consistent Expression.fits a hlimit
  rw [hcheck] at haccepted hreports
  refine ⟨hlimit, fun hconsistent ↦ ?_, ?_⟩
  · have hrejected : a.check.1.isSome = false := by decide +kernel
    exact absurd (haccepted.mpr hconsistent) (by rw [hrejected]; decide)
  · have hfound : a.check.2.map Issue.finding = [
        (.error, .undeclaredPlaceholder "move" "by" "move \x7bx\x7d"),
        (.error, .undeclaredPlaceholder "move" "to" "move \x7bx\x7d"),
        (.warning, .undeclaredTool "move")] := by decide +kernel
    rwa [hfound] at hreports

end Alias

end Phrasebook
