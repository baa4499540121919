import Phrasebook.Decimal
import Phrasebook.Json.Printer
import Phrasebook.Report.Style
import Phrasebook.Resolution.Form
import Phrasebook.Session
import Phrasebook.Text.Quoted

/-!
# Reports

What a person reads: the answer to a request, the aliases that a caller may use, and the issues of a
phrasebook. An answer can also be had as a JSON document for a program to read.
-/

namespace Phrasebook.Report

/-- How pieces of a report are set off; `shown` tells whether styles are shown at all. -/
structure Painter where
  shown : Bool

namespace Painter

variable (painter : Painter)

/-- A piece in bold type. -/
def bold (text : String) : String := Style.paint { bold := true } painter.shown text

/-- A piece in faint type. -/
def dim (text : String) : String := Style.paint { dim := true } painter.shown text

/-- A piece in a colour. -/
def tinted (color : Color) (text : String) : String :=
  Style.paint { color := some color } painter.shown text

/-- A piece in bold type and a colour. -/
def heading (color : Color) (text : String) : String :=
  Style.paint { bold := true, color := some color } painter.shown text

/-- A heading with an empty line before it. -/
def titled (title : String) : String := "\n" ++ painter.heading .cyan title ++ "\n"

/-! ## Answers -/

/-- A call on one line. -/
def invocation (call : Invocation) : String :=
  let output := match call.output with
    | some name => " -> " ++ painter.tinted .yellow name
    | none => ""
  painter.bold call.tool ++ " " ++ Json.compact (.obj call.params.entries) ++ output

/-- Some lines, numbered from one. -/
def numbered (lines : List String) : String :=
  String.join (lines.zipIdx.map fun (line, i) ↦ s!"  {i + 1}. {line}\n")

/-- What the placeholders took. -/
def captures (captures : Captures) : String :=
  if captures.isEmpty then ""
  else painter.titled "Captures" ++ String.join (captures.entries.map fun (name, value) ↦
    "  " ++ painter.tinted .yellow name ++ " = " ++ Text.quoted value ++ "\n")

/-- The calls of a plan. -/
def plan (plan : Plan) : String :=
  let none := if plan.invocations.isEmpty then "  " ++ painter.dim "(no actions)" ++ "\n" else ""
  painter.titled "Plan" ++ none ++ numbered (plan.invocations.map painter.invocation)

/-- The tools that a plan needs and that are not granted. Without any grants nothing is said. -/
def missing (plan : Plan) (grants : List String) : String :=
  let tools := (plan.missingTools grants).toList
  if grants.isEmpty || tools.isEmpty then ""
  else "\n" ++ painter.heading .red "Missing capabilities:" ++ " " ++
    String.intercalate ", " tools ++ "\n"

/-- A suggestion on one line. -/
def suggestion (suggestion : Suggestion) : String :=
  painter.bold suggestion.aliasId ++ "  " ++ suggestion.description ++ " " ++
    painter.dim ("(" ++ Decimal.fixed 2 suggestion.score ++ ")")

/-- What a request came to. -/
def resolution (resolution : Resolution) (grants : List String) : String :=
  match resolution with
  | .matched aliasId kind found plan =>
    painter.heading .green "Matched:" ++ " " ++ painter.bold aliasId ++ " " ++
      painter.dim ("(" ++ kind.label ++ ")") ++ "\n" ++ painter.captures found ++
      painter.plan plan ++ painter.missing plan grants
  | .suggestions candidates =>
    painter.heading .yellow "No exact match. Did you mean:" ++ "\n" ++
      numbered (candidates.map painter.suggestion)
  | .noMatch => painter.dim "No alias matches this request." ++ "\n"

/-- The answer to a request. -/
def answer (request : String) (answer : Answer) (grants : List String) : String :=
  let warning :=
    if answer.degraded then
      "\n" ++ painter.tinted .yellow
        s!"Warning: pattern store unavailable, answered from snapshot v{answer.version.toNat}" ++
        "\n"
    else ""
  painter.heading .cyan "Request:" ++ " " ++ request ++ "\n" ++
    painter.resolution answer.resolution grants ++ warning

/-! ## Issues -/

/-- An issue on one line. -/
def issue (issue : Issue) : String :=
  let color := match issue.severity with
    | .error => Color.red
    | .warning => Color.yellow
  painter.heading color issue.severity.label ++ ": " ++ painter.bold issue.aliasId ++ ": " ++
    issue.cause.message ++ "\n"

/-- The issues that were found when `checked` aliases were checked: the faults first, then the
warnings, and then how many there are of each. -/
def issues (issues : List Issue) (checked : Nat) : String :=
  let errors := issues.filter Issue.isError
  let warnings := issues.filter fun issue ↦ !issue.isError
  let summary :=
    s!"{checked} alias(es) checked, {errors.length} error(s), {warnings.length} warning(s)"
  String.join ((errors ++ warnings).map painter.issue) ++
    painter.tinted (if errors.isEmpty then .green else .red) summary ++ "\n"

/-! ## Aliases -/

/-- An entry of a phrasebook, with its description on a line of its own. -/
def entry (entry : Entry) : String :=
  let a := entry.definition
  let layer := if a.isPublic then "" else " " ++ painter.tinted .yellow ("[" ++ a.layer ++ "]")
  let context :=
    if a.context.isEmpty then ""
    else " " ++ painter.dim ("@" ++ String.intercalate "," a.context.toList)
  let description := match a.description with
    | some text => "\n    " ++ text
    | none => ""
  painter.bold entry.id ++ "  " ++ painter.tinted .cyan a.pattern ++ layer ++ context ++
    description ++ "\n"

/-- The entries that a caller may use. -/
def entries (entries : List Entry) : String :=
  if entries.isEmpty then painter.dim "No aliases visible." ++ "\n"
  else String.join (entries.map painter.entry)

end Painter

/-- An answer as a JSON document. -/
def document (answer : Answer) : String :=
  Json.pretty <| .obj [("result", answer.resolution.toJson), ("degraded", .bool answer.degraded),
    ("snapshot_version", .int answer.version.toNat)]

end Phrasebook.Report
