import Phrasebook.Names
import Phrasebook.Text.Alphanumeric
import Phrasebook.Text.Blank
import Phrasebook.Text.Lowercase

/-!
# Keywords

The keywords of a text are its words in lower case, without those that say nothing about the
subject, and with the endings of English plurals taken off. Requests and patterns go through the
same steps, so that "tasks" in one meets "task" in the other.
-/

namespace Phrasebook.Keyword

open Phrasebook.Text

/-- The words that say nothing about the subject. -/
def stopWords : List String :=
  ["a", "about", "all", "an", "and", "are", "at", "be", "by", "can", "could", "do", "does", "for",
    "from", "get", "give", "has", "have", "how", "i", "in", "is", "it", "its", "me", "my", "of",
    "on", "or", "our", "please", "show", "tell", "that", "the", "their", "them", "these", "this",
    "those", "to", "us", "was", "we", "were", "what", "whats", "which", "who", "whos", "will",
    "with", "would", "you", "your"]

/-- Whether a word is one of them, as it is written. -/
def isStopWord (word : String) : Bool := stopWords.contains word

/-- The endings after which English forms a plural with `es`. -/
def sibilants : List (List Char) := [['s', 's'], ['s', 'h'], ['c', 'h'], ['x'], ['z']]

/-- What precedes `ending` in `word`. -/
def before? (ending word : List Char) : Option (List Char) := ending.isSuffixOf? word

/-- Whether `word` ends with `ending`. -/
def endsWith (word ending : List Char) : Bool := ending.isSuffixOf word

/-- `stem` on characters. A word keeps its ending when what is left would be too short. -/
def stemChars (word : List Char) : List Char :=
  if let some base := (before? ['i', 'e', 's'] word).filter fun _ ↦ word.length > 4 then
    base ++ ['y']
  else if let some base := (before? ['e', 's'] word).filter fun base ↦
      word.length > 4 && sibilants.any (endsWith base) then
    base
  else if let some base := (before? ['s'] word).filter fun _ ↦
      word.length > 3 && !endsWith word ['s', 's'] && !endsWith word ['u', 's'] then
    base
  else word

/-- The word without the ending of an English plural. Endings of verbs stay. -/
def stem (word : String) : String := String.ofList (stemChars word.toList)

/-- The words of a text in lower case: its maximal runs of letters and digits. -/
def lowerWords (text : String) : List String :=
  (piecesBy (fun c ↦ !isAlphanumeric c) (lowercase text.toList)).map String.ofList

/-- The keywords of a text, in order. -/
def tokenize (text : String) : List String :=
  ((lowerWords text).filter fun word ↦ !isStopWord word).map stem

/-- The distinct keywords of a text. -/
def keywordSet (text : String) : NameSet := NameSet.ofList (tokenize text)

end Phrasebook.Keyword
