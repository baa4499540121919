import Phrasebook.Names
import Phrasebook.Pattern.Expression
import Phrasebook.Template.Cut
import Phrasebook.Text.Blank

/-!
# Patterns

A pattern is a template that has been read and found fit for matching. It knows its placeholders,
the literal text that is left without them, and how to match a text and name the pieces that the
placeholders took.
-/

namespace Phrasebook

/-- The text that each placeholder took. -/
abbrev Captures := NameMap String

/-- Why a template is no pattern: its braces are wrong, or the engine has no room for it. -/
inductive PatternError where
  | template (error : TemplateError)
  | tooLarge
deriving DecidableEq, Repr

namespace PatternError

/-- The fault in words. -/
def message : PatternError → String
  | template error => error.message
  | tooLarge =>
    "pattern could not be compiled: " ++
      s!"Compiled regex exceeds size limit of {Expression.sizeLimit} bytes."

end PatternError

/-- A template together with its segments. -/
structure Pattern where
  source : String
  segments : List Segment
  segments_eq : Template.segments source = .ok segments

namespace Pattern

/-- Reads a template, for an engine that has room for the given expressions. -/
def compileWith (fits : Expression → Bool) (template : String) : Except PatternError Pattern :=
  match h : Template.segments template with
  | .error error => .error (.template error)
  | .ok segments =>
    if fits (Expression.ofSegments segments) then .ok ⟨template, segments, h⟩ else .error .tooLarge

/-- Reads a template. -/
def compile (template : String) : Except PatternError Pattern :=
  compileWith Expression.fits template

/-- The names of all placeholders of a template, from left to right, repetitions included. -/
def placeholderNames (segments : List Segment) : List String :=
  segments.filterMap fun
    | .placeholder name => some name
    | .literal _ => none

/-- The literal texts of a template, from left to right. -/
def literalTexts (segments : List Segment) : List String :=
  segments.filterMap fun
    | .literal text => some text
    | .placeholder _ => none

/-- The distinct placeholders in the order in which they first appear. -/
def placeholders (pattern : Pattern) : List String :=
  (placeholderNames pattern.segments).eraseDups

/-- The literal text of the segments, with single spaces between words. -/
def literalOf (segments : List Segment) : String :=
  String.ofList <| Text.collapseBlanks <|
    ((literalTexts segments).map String.toList).intersperse [' '] |>.flatten

/-- The literal text of the pattern, with single spaces between words. -/
def literal (pattern : Pattern) : String := literalOf pattern.segments

/-- The number of characters of the literal text; more of them make a pattern more specific. -/
def literalLength (pattern : Pattern) : Nat := pattern.literal.length

/-- Puts the pieces of the placeholders under their names; a name keeps its first piece. -/
def nameCaptures : List Segment → List (List Char) → Captures → Captures
  | .placeholder name :: segments, piece :: pieces, captures =>
    nameCaptures segments pieces
      (if captures.contains name then captures else captures.insert name (String.ofList piece))
  | .literal _ :: segments, _ :: pieces, captures => nameCaptures segments pieces captures
  | _, _, captures => captures

/-- What the placeholders take when the whole of `text` matches. -/
def captures? (pattern : Pattern) (text : String) : Option Captures :=
  (Template.cut pattern.segments text.toList).map fun pieces ↦
    nameCaptures pattern.segments pieces ∅

/-- Whether the whole of `text` matches. -/
def isMatch (pattern : Pattern) (text : String) : Bool :=
  (Template.cut pattern.segments text.toList).isSome

end Pattern

end Phrasebook
