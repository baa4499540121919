import Phrasebook.Text.Alphanumeric
import Phrasebook.Text.Blank

/-!
# Conversational openers

People wrap a command in filler: "show me my tasks" asks for what "my tasks" names. One opener at
the front of a request may be dropped, the longest of a fixed list that ends at the end of a word.
-/

namespace Phrasebook.Opener

open Phrasebook.Text

/-- The openers, in lower case. -/
def openers : List String :=
  ["can you please", "can you", "could you", "please", "show me", "show", "list all", "list",
    "give me", "get me", "tell me about", "tell me", "what's my", "whats my", "what is my",
    "what are my", "what's", "what are", "what is", "find me", "find", "look up", "i want to",
    "i need to", "let me see", "display"]

/-- What follows `opener` in `text`, when the text starts with it up to the case of ASCII
letters. -/
def after? : List Char → List Char → Option (List Char)
  | [], text => some text
  | _ :: _, [] => none
  | a :: opener, b :: text => if a.toLower = b.toLower then after? opener text else none

/-- Whether a word may end where `rest` begins. -/
def endsWord (rest : List Char) : Bool :=
  match rest with
  | [] => true
  | c :: _ => !isAlphanumeric c

/-- What follows `opener`, when the text starts with it as whole words. -/
def afterWords? (text opener : List Char) : Option (List Char) :=
  (after? opener text).filter endsWord

/-- What follows the longest opener that the text starts with as whole words. -/
def afterLongest? (text : List Char) : Option (List Char) :=
  (openers.foldl (fun best opener ↦
    match afterWords? text opener.toList with
    | none => best
    | some rest =>
      match best with
      | some (size, _) => if size ≤ opener.length then some (opener.length, rest) else best
      | none => some (opener.length, rest)) none).map (·.2)

/-- The request without blanks around it and without its opener. -/
def strip (request : String) : String :=
  let text := trimChars request.toList
  match afterLongest? text with
  | some rest => String.ofList (trimChars rest)
  | none => String.ofList text

end Phrasebook.Opener
