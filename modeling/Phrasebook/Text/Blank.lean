import Phrasebook.Text.CodeRange

/-!
# White space

The characters with the Unicode property White_Space, and the three things the library does with
them: dropping them at the ends of a text, splitting a text into words, and joining the words with
single spaces.
-/

namespace Phrasebook.Text

/-- The code points with the property White_Space. -/
def blankRanges : CodeRanges :=
  [(0x9, 0xD), (0x20, 0x20), (0x85, 0x85), (0xA0, 0xA0), (0x1680, 0x1680), (0x2000, 0x200A),
   (0x2028, 0x2029), (0x202F, 0x202F), (0x205F, 0x205F), (0x3000, 0x3000)]

/-- A character is blank when it has the property White_Space. -/
def isBlank (c : Char) : Bool := blankRanges.holds c.toNat

/-- The text without the blanks at its start. -/
def trimStart (text : List Char) : List Char := text.dropWhile isBlank

/-- The text without the blanks at its end. -/
def trimEnd (text : List Char) : List Char := (text.reverse.dropWhile isBlank).reverse

/-- The text without the blanks at either end. -/
def trimChars (text : List Char) : List Char := trimEnd (trimStart text)

/-- The text without the blanks at either end. -/
def trim (text : String) : String := String.ofList (trimChars text.toList)

theorem dropWhile_isBlank_eq_self {text : List Char} (h : ∀ c ∈ text.head?, isBlank c = false) :
    text.dropWhile isBlank = text := by
  cases text with
  | nil => rfl
  | cons c rest => rw [List.dropWhile_cons, h c rfl, if_neg Bool.false_ne_true]

/-- A text that neither starts nor ends with a blank is not changed. -/
theorem trimChars_eq_self {text : List Char} (hfirst : ∀ c ∈ text.head?, isBlank c = false)
    (hlast : ∀ c ∈ text.getLast?, isBlank c = false) : trimChars text = text := by
  have hreverse : ∀ c ∈ text.reverse.head?, isBlank c = false := by
    rwa [List.head?_reverse]
  rw [trimChars, trimStart, dropWhile_isBlank_eq_self hfirst, trimEnd,
    dropWhile_isBlank_eq_self hreverse, List.reverse_reverse]

/-- The maximal runs of characters outside `sep`, in order; none of them is empty. -/
def piecesBy (sep : Char → Bool) (text : List Char) : List (List Char) :=
  go [] text
where
  /-- The pieces of `run.reverse ++ text`, where `run` holds no separator. -/
  go (run : List Char) : List Char → List (List Char)
    | [] => if run.isEmpty then [] else [run.reverse]
    | c :: rest =>
      if sep c then
        if run.isEmpty then go [] rest else run.reverse :: go [] rest
      else go (c :: run) rest

/-- The words of a text: its maximal runs without blanks. -/
def words (text : List Char) : List (List Char) := piecesBy isBlank text

/-- The words of a text with one space between neighbours. -/
def collapseBlanks (text : List Char) : List Char :=
  (words text).intersperse [' '] |>.flatten

end Phrasebook.Text
