import Phrasebook.Text.Printable

/-!
# Texts between quotes

A text as it is shown to a person: between quotes, with everything escaped that would not show as
itself. A character that joins the one before it would not, and neither would one that has no
picture.
-/

namespace Phrasebook.Text

/-- A character by its code, in lower-case hexadecimal digits between braces. -/
def codeText (c : Char) : List Char := ['\\', 'u', '{'] ++ Nat.toDigits 16 c.toNat ++ ['}']

/-- A character as it stands between quotes. -/
def shownChar (c : Char) : List Char :=
  if c = '"' then ['\\', '"']
  else if c = '\\' then ['\\', '\\']
  else if c = '\n' then ['\\', 'n']
  else if c = '\r' then ['\\', 'r']
  else if c = '\t' then ['\\', 't']
  else if c = '\x00' then ['\\', '0']
  else if extendsGrapheme c || !isPrintable c then codeText c
  else [c]

/-- The text between quotes. -/
def quoted (s : String) : String :=
  String.ofList ('"' :: (s.toList.flatMap shownChar ++ ['"']))

end Phrasebook.Text
