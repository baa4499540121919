/-!
# Globs

Patterns with wildcards for the names of tools: `*` takes any text, `?` any one character, and a
class in brackets one of the characters it lists. `**` has to be a whole component between slashes
and takes any number of components. A glob that is not well formed matches nothing.
-/

namespace Phrasebook

/-- A member of a class: one character, or all between two. -/
inductive Glob.Range where
  | single (c : Char)
  | between (first last : Char)
deriving DecidableEq

/-- What a part of a glob stands for. -/
inductive Glob.Token where
  | char (c : Char)
  | anyChar
  | anyText
  | anyComponents
  | within (ranges : List Glob.Range)
  | except (ranges : List Glob.Range)
deriving DecidableEq

/-- A well-formed glob. -/
structure Glob where
  tokens : List Glob.Token
deriving DecidableEq

namespace Glob

/-- Whether the class member contains `c`. -/
def Range.contains (c : Char) : Range → Bool
  | .single d => c = d
  | .between first last => first ≤ c && c ≤ last

/-- The members of a class from the characters between its brackets. -/
def ranges : List Char → List Range
  | a :: '-' :: b :: rest => .between a b :: ranges rest
  | a :: rest => .single a :: ranges rest
  | [] => []

/-- The characters up to the first `]` and those after it. -/
def untilBracket : List Char → Option (List Char × List Char)
  | [] => none
  | c :: rest =>
    if c = ']' then some ([], rest)
    else (untilBracket rest).map fun (inside, rest) ↦ (c :: inside, rest)

/-- Reads a class after its opening bracket. The first character never closes it. -/
def classToken : List Char → Option (Token × List Char)
  | '!' :: a :: rest =>
    (untilBracket rest).map fun (inside, rest) ↦ (.except (ranges (a :: inside)), rest)
  | a :: rest =>
    if a = '!' then none
    else (untilBracket rest).map fun (inside, rest) ↦ (.within (ranges (a :: inside)), rest)
  | [] => none

/-- Appends `**`, unless one already stands after another token. -/
def pushComponents (done : List Token) : List Token :=
  match done with
  | .anyComponents :: _ :: _ => done
  | _ => .anyComponents :: done

/-- The tokens of a glob. `previous` is the character before the rest, and `done` are the tokens
before it, last one first. Each round takes at least one character. -/
def tokensFrom : Nat → Option Char → List Token → List Char → Option (List Token)
  | 0, _, _, _ => none
  | _ + 1, _, done, [] => some done.reverse
  | rounds + 1, previous, done, c :: rest =>
    if c = '?' then tokensFrom rounds (some c) (.anyChar :: done) rest
    else if c = '*' then
      match rest with
      | '*' :: '*' :: _ => none
      | '*' :: rest =>
        if previous = none ∨ previous = some '/' then
          match rest with
          | [] => some (pushComponents done).reverse
          | '/' :: rest => tokensFrom rounds (some '/') (pushComponents done) rest
          | _ => none
        else none
      | rest => tokensFrom rounds (some c) (.anyText :: done) rest
    else if c = '[' then
      match classToken rest with
      | some (token, rest) => tokensFrom rounds (some ']') (token :: done) rest
      | none => none
    else tokensFrom rounds (some c) (.char c :: done) rest

/-- Reads a glob; `none` when it is not well formed. -/
def parse? (text : String) : Option Glob :=
  (tokensFrom (text.toList.length + 1) none [] text.toList).map Glob.mk

/-- Whether one character is what a token for one character stands for. -/
def Token.takes (c : Char) : Token → Bool
  | .char d => c = d
  | .anyChar => true
  | .within ranges => ranges.any (Range.contains c)
  | .except ranges => !ranges.any (Range.contains c)
  | .anyText | .anyComponents => false

/-! A table says of every suffix of the text whether the tokens so far considered, from the last
one on, match it. -/

/-- The table for no tokens: only the empty suffix matches. -/
def emptyTable : List Char → List Bool
  | [] => [true]
  | _ :: rest => false :: emptyTable rest

/-- The table for any text in front of tokens with the given table. -/
def textTable : List Bool → List Bool
  | [] => []
  | b :: next =>
    let later := textTable next
    (b || later.headD false) :: later

/-- The entries of a table at the end of the text and behind each slash, or'ed from the right. -/
def afterSlash : List Char → List Bool → List Bool
  | [], _ => [false]
  | c :: rest, next =>
    let later := afterSlash rest next.tail
    ((c = '/' && next.tail.headD false) || later.headD false) :: later

/-- The table for any number of components: nothing, text up to a slash, or all the rest. -/
def componentsTable (text : List Char) (next : List Bool) : List Bool :=
  let atEnd := next.getLast?.getD false
  (next.zip (afterSlash text next)).map fun (here, later) ↦ here || later || atEnd

/-- The table for a token that takes one character. -/
def charTable (token : Token) : List Char → List Bool → List Bool
  | [], _ => [false]
  | c :: rest, next => (token.takes c && next.tail.headD false) :: charTable token rest next.tail

/-- The table for a list of tokens. -/
def table (text : List Char) : List Token → List Bool
  | [] => emptyTable text
  | .anyText :: tokens => textTable (table text tokens)
  | .anyComponents :: tokens => componentsTable text (table text tokens)
  | token :: tokens => charTable token text (table text tokens)

/-- Whether the glob matches the whole of `text`. -/
def accepts (glob : Glob) (text : String) : Bool := (table text.toList glob.tokens).headD false

/-- Whether `pattern` is a well-formed glob that matches the whole of `value`. -/
def admits (pattern value : String) : Bool :=
  match parse? pattern with
  | some glob => glob.accepts value
  | none => false

end Glob

end Phrasebook
