import Phrasebook.Alias
import Phrasebook.Substitution

/-!
# Issues

An alias is checked once, before it is used. A fault keeps it out of use; anything else that its
author should know of is a warning. Both are issues, and an issue names the alias it is about.
-/

namespace Phrasebook

/-- How serious an issue is. -/
inductive Severity where
  | error
  | warning
deriving DecidableEq, Repr

/-- The severity in words. -/
def Severity.label : Severity → String
  | error => "error"
  | warning => "warning"

/-- What is the matter with an alias. -/
inductive Cause where
  /-- The phrase cannot be read. -/
  | invalidPattern (pattern : String) (error : PatternError)
  /-- An action refers to a placeholder that the phrase does not have. -/
  | undeclaredPlaceholder (tool name pattern : String)
  /-- An earlier alias has the same phrase in the same layer. -/
  | duplicatePattern (layer pattern : String)
  /-- An action calls a tool that the alias does not declare. -/
  | undeclaredTool (tool : String)
  /-- The alias does nothing. -/
  | noActions
deriving DecidableEq

namespace Cause

/-- How serious it is. -/
def severity : Cause → Severity
  | invalidPattern .. | undeclaredPlaceholder .. | duplicatePattern .. => .error
  | undeclaredTool _ | noActions => .warning

/-- What is the matter, in words. -/
def message : Cause → String
  | invalidPattern pattern error => s!"pattern '{pattern}': {error.message}"
  | undeclaredPlaceholder tool name pattern =>
    s!"action '{tool}' references '\x7b{name}\x7d' which pattern '{pattern}' does not declare"
  | duplicatePattern layer pattern =>
    s!"pattern '{pattern}' is already registered in layer '{layer}'"
  | undeclaredTool tool => s!"tool '{tool}' is invoked but not listed in tools_required"
  | noActions => "alias has no actions"

end Cause

/-- What is the matter with the alias that has the given key. -/
structure Issue where
  aliasId : String
  cause : Cause
deriving DecidableEq

namespace Issue

/-- How serious the issue is. -/
def severity (issue : Issue) : Severity := issue.cause.severity

/-- Whether the issue keeps the alias out of use. -/
def isError (issue : Issue) : Bool := issue.severity = .error

/-- The issue in a line. -/
def display (issue : Issue) : String :=
  s!"[{issue.severity.label}] {issue.aliasId}: {issue.cause.message}"

end Issue

/-- What is the matter with one action of an alias whose phrase has the given placeholders. -/
def Action.causes (action : Action) (a : Alias) (placeholders : List String) : List Cause :=
  let undeclared := (Substitution.namesWithin (.obj action.params.entries)).toList.filter
    fun name ↦ !placeholders.contains name
  undeclared.map (.undeclaredPlaceholder action.tool · a.pattern) ++
    if a.toolsRequired.contains action.tool then [] else [.undeclaredTool action.tool]

namespace Alias

/-- What is the matter with an alias whose phrase could be read. -/
def causes (a : Alias) (pattern : Pattern) : List Cause :=
  a.actions.flatMap (·.causes a pattern.placeholders) ++
    if a.actions.isEmpty then [.noActions] else []

/-- Checks an alias, for an engine that has room for the given expressions. Gives the pattern to
match requests with, unless there is a fault, and all that is the matter. -/
def checkWith (fits : Expression → Bool) (a : Alias) : Option Pattern × List Issue :=
  match Pattern.compileWith fits a.pattern with
  | .error error => (none, [⟨a.key, .invalidPattern a.pattern error⟩])
  | .ok pattern =>
    let issues := (a.causes pattern).map (Issue.mk a.key)
    (if issues.any Issue.isError then none else some pattern, issues)

/-- Checks an alias. -/
def check (a : Alias) : Option Pattern × List Issue := a.checkWith Expression.fits

end Alias

end Phrasebook
