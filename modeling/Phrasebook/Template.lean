/-!
# Templates

A template is literal text with placeholders in braces, such as `add task {title}`. It has one
reading as a list of segments, and printing the segments gives the template back. Braces stand for
nothing but placeholders: a brace out of place is a fault, and the fault tells the byte at which it
was found.
-/

namespace Phrasebook

/-- A piece of a template. -/
inductive Segment where
  | literal (text : String)
  | placeholder (name : String)
deriving DecidableEq, Inhabited

/-- What is wrong with the braces of a template. Positions count bytes of UTF-8. -/
inductive TemplateError where
  | unclosedBrace (position : Nat)
  | unmatchedBrace (position : Nat)
  | nestedBrace (position : Nat)
  | emptyPlaceholder (position : Nat)
  | invalidName (name : String) (position : Nat)
deriving DecidableEq, Repr

namespace TemplateError

/-- The byte at which the fault was found. -/
def position : TemplateError → Nat
  | unclosedBrace p | unmatchedBrace p | nestedBrace p | emptyPlaceholder p | invalidName _ p => p

/-- The fault in words. -/
def message : TemplateError → String
  | unclosedBrace p => s!"unclosed '\x7b' at position {p}"
  | unmatchedBrace p => s!"unmatched '\x7d' at position {p}"
  | nestedBrace p => s!"nested '\x7b' at position {p}"
  | emptyPlaceholder p => s!"empty placeholder at position {p}"
  | invalidName name p => s!"invalid placeholder name '{name}' at position {p}"

end TemplateError

/-- The characters of placeholder names: ASCII letters, digits and the underscore. -/
def isIdentifierChar (c : Char) : Bool := c.isAlphanum || c = '_'

/-- A placeholder name is a non-empty run of such characters. -/
def isIdentifier (name : List Char) : Bool := !name.isEmpty && name.all isIdentifierChar

namespace Template

/-- Where a scan of a template stands: in literal text, or inside the braces that opened at a
position. Either way with the characters read there so far, last one first. -/
inductive Place where
  | literal (run : List Char)
  | name (opened : Nat) (run : List Char)

/-- The literal segment for a run, which is none for an empty run. -/
def literalSegment (run : List Char) : List Segment :=
  if run.isEmpty then [] else [.literal (String.ofList run.reverse)]

/-- The segments of the rest of a template, from a byte position on. -/
def scan (position : Nat) : Place → List Char → Except TemplateError (List Segment)
  | .literal run, [] => .ok (literalSegment run)
  | .name opened _, [] => .error (.unclosedBrace opened)
  | .literal run, c :: rest =>
    if c = '{' then
      (scan (position + c.utf8Size) (.name position []) rest).map (literalSegment run ++ ·)
    else if c = '}' then .error (.unmatchedBrace position)
    else scan (position + c.utf8Size) (.literal (c :: run)) rest
  | .name opened run, c :: rest =>
    if c = '}' then
      if run.isEmpty then .error (.emptyPlaceholder opened)
      else if isIdentifier run.reverse then
        (scan (position + c.utf8Size) (.literal []) rest).map
          (.placeholder (String.ofList run.reverse) :: ·)
      else .error (.invalidName (String.ofList run.reverse) opened)
    else if c = '{' then .error (.nestedBrace position)
    else scan (position + c.utf8Size) (.name opened (c :: run)) rest

/-- The segments of a template. -/
def segments (template : String) : Except TemplateError (List Segment) :=
  scan 0 (.literal []) template.toList

/-- The characters of a segment as it stands in a template. -/
def segmentChars : Segment → List Char
  | .literal text => text.toList
  | .placeholder name => '{' :: (name.toList ++ ['}'])

/-- The template with the given segments. -/
def print (segments : List Segment) : String := String.ofList (segments.flatMap segmentChars)

end Template

end Phrasebook
