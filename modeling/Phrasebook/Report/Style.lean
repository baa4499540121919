/-!
# Terminal styles

A piece of a report may be set off by weight and colour. On a terminal that shows them a style is
switched on in front of the piece and off behind it; elsewhere the piece stands alone.
-/

namespace Phrasebook.Report

/-- The colours that reports use. -/
inductive Color where
  | red
  | green
  | yellow
  | cyan
deriving DecidableEq

/-- The code of a colour. -/
def Color.code : Color → String
  | red => "31"
  | green => "32"
  | yellow => "33"
  | cyan => "36"

/-- Weight and colour of a piece. -/
structure Style where
  bold : Bool := false
  dim : Bool := false
  color : Option Color := none
deriving DecidableEq

namespace Style

/-- The codes that make up the style. -/
def codes (style : Style) : List String :=
  (if style.bold then ["1"] else []) ++ (if style.dim then ["2"] else []) ++
    (style.color.map Color.code).toList

/-- Starts a control sequence. -/
def escape : String := "\x1b["

/-- What switches the style on. -/
def on (style : Style) : String := escape ++ String.intercalate ";" style.codes ++ "m"

/-- What switches every style off. -/
def off : String := escape ++ "0m"

/-- The text with `again` behind every sequence that switches styles off. -/
def restoring (again : String) (text : String) : String :=
  String.intercalate (off ++ again) (text.splitOn off)

/-- A piece in a style, when styles are shown. The style outlasts what switches it off inside. -/
def paint (style : Style) (shown : Bool) (text : String) : String :=
  if shown then style.on ++ restoring style.on text ++ off else text

end Style

end Phrasebook.Report
