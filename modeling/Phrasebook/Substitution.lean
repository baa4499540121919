import Phrasebook.Json
import Phrasebook.Pattern

/-!
# Substitution

The texts in the parameters of an action may refer to placeholders, as in `{title}`. Reading such a
text never fails: a brace that does not open a reference stands for itself. A reference is replaced
by what the placeholder took, or by nothing when there is no such placeholder. What is put in is not
read again.
-/

namespace Phrasebook.Substitution

/-- A piece of a text: a character that stands for itself, or a reference to a placeholder. -/
inductive Part where
  | char (c : Char)
  | reference (name : String)
deriving DecidableEq

/-- Characters that stand for themselves. -/
def verbatim (text : List Char) : List Part := text.map .char

/-- The pieces of the rest of a text. `opened` holds the characters since an opening brace that may
still open a reference, last one first, or `none` when there is no such brace. -/
def partsFrom : Option (List Char) → List Char → List Part
  | none, [] => []
  | some run, [] => verbatim ('{' :: run.reverse)
  | none, c :: rest =>
    if c = '{' then partsFrom (some []) rest else .char c :: partsFrom none rest
  | some run, c :: rest =>
    if c = '{' then verbatim ('{' :: run.reverse) ++ partsFrom (some []) rest
    else if c = '}' then
      if isIdentifier run.reverse then
        .reference (String.ofList run.reverse) :: partsFrom none rest
      else verbatim ('{' :: (run.reverse ++ ['}'])) ++ partsFrom none rest
    else partsFrom (some (c :: run)) rest

/-- The pieces of a text. -/
def parts (text : List Char) : List Part := partsFrom none text

/-- What a piece becomes. -/
def Part.resolve (captures : Captures) : Part → List Char
  | .char c => [c]
  | .reference name => ((captures.get? name).getD "").toList

/-- The name that a piece refers to. -/
def Part.name? : Part → Option String
  | .char _ => none
  | .reference name => some name

/-- The text with each reference replaced by what its placeholder took. -/
def substitute (captures : Captures) (text : String) : String :=
  String.ofList ((parts text.toList).flatMap (Part.resolve captures))

/-- The value with the references in all its texts replaced. -/
def substituteWithin (captures : Captures) (value : Json) : Json :=
  value.mapTexts (substitute captures)

/-- The names that a text refers to, from left to right. -/
def names (text : String) : List String := (parts text.toList).filterMap Part.name?

/-- The names that the texts in a value refer to. -/
def namesWithin (value : Json) : NameSet := NameSet.ofList (value.textsWithin.flatMap names)

end Phrasebook.Substitution
