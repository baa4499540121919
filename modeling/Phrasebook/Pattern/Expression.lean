import Phrasebook.Template

/-!
# Expressions

A template is matched by an engine that knows nothing of templates. It is given an expression, in
which every placeholder takes a run of characters and every literal stands for itself. The names of
the placeholders are not in it.

The engine is no part of this library. What an expression matches follows from its meaning, and is
worked out in `Phrasebook.Template.Cut`; but an engine also refuses what it has no room for, and how
much room an expression takes is its own affair. So whatever depends on that is given the decision:
`Pattern.compileWith` and `Alias.checkWith` are told which expressions fit, whatever the reasons.
The program has an estimate to go by, `Expression.fits`.
-/

namespace Phrasebook

/-- An expression for a matching engine. -/
abbrev Expression := List Char

namespace Expression

/-- The characters that mean something other than themselves, unless a backslash precedes them. -/
def metaCharacters : List Char :=
  ['\\', '.', '+', '*', '?', '(', ')', '|', '[', ']', '{', '}', '^', '$', '#', '&', '-', '~']

/-- The expression for nothing but the text. -/
def escape (text : List Char) : Expression :=
  text.flatMap fun c ↦ if c ∈ metaCharacters then ['\\', c] else [c]

/-- The expression for a segment. -/
def ofSegment : Segment → Expression
  | .literal text => escape text.toList
  | .placeholder _ => ['(', '.', '+', ')']

/-- The expression for a whole text that consists of the segments. -/
def ofSegments (segments : List Segment) : Expression :=
  '^' :: (segments.flatMap ofSegment ++ ['$'])

/-! ## How much room there is -/

/-- The number of bytes that an engine has for an expression. -/
def sizeLimit : Nat := 10485760

/-- About the number of bytes that a character takes. A letter is matched in either case. -/
def characterEstimate (c : Char) : Nat := if c.isAlpha then 80 else 32 * c.utf8Size

/-- About the number of bytes that an expression takes, added to a total. An engine's own count may
differ in either direction. -/
def estimateFrom (total : Nat) : Expression → Nat
  | [] => total
  | '(' :: '.' :: '+' :: ')' :: rest => estimateFrom (total + 1004) rest
  | '\\' :: c :: rest => estimateFrom (total + characterEstimate c) rest
  | c :: rest => estimateFrom (total + characterEstimate c) rest

/-- Whether there seems to be room for an expression. -/
def fits (expression : Expression) : Bool := estimateFrom 0 expression ≤ sizeLimit

end Expression

end Phrasebook
