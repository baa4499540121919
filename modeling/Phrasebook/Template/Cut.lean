import Phrasebook.Template
import Phrasebook.Text.Folding

/-!
# Cutting a text along a template

A text matches a template when it can be cut into one piece for each segment: a literal's piece
agrees with the literal up to case, and a placeholder's piece is any text that is not empty. Of all
such cuts the one taken gives the first placeholder as much as possible, then the second, and so on.

To find it, the segments are worked through from the last to the first. For each tail of the
template a table says of every suffix of the text whether that tail can be cut from it, so the
search never has to go back on a choice.
-/

namespace Phrasebook.Template

open Phrasebook.Text

/-- Whether `text` starts with `literal` up to case. -/
def startsFolded : List Char → List Char → Bool
  | [], _ => true
  | _ :: _, [] => false
  | a :: literal, b :: text => sameFolded a b && startsFolded literal text

/-- The table for no segments at all: only the empty suffix is cut into no piece. -/
def emptyTable : List Char → List Bool
  | [] => [true]
  | _ :: rest => false :: emptyTable rest

/-- The table for a literal in front of segments with the table `next`. -/
def literalTable (literal : List Char) : List Char → List Bool → List Bool
  | [], next => [literal.isEmpty && next.headD false]
  | c :: rest, next =>
    (startsFolded literal (c :: rest) && (next.drop literal.length).headD false) ::
      literalTable literal rest next.tail

/-- The table for a placeholder in front of segments with the table `next`: a suffix can be cut
when some shorter one can be cut by `next`. -/
def placeholderTable : List Bool → List Bool
  | [] => []
  | _ :: next =>
    let later := placeholderTable next
    (next.headD false || later.headD false) :: later

/-- The tables for all tails of the segments, longest tail first. -/
def tables (text : List Char) : List Segment → List (List Bool)
  | [] => [emptyTable text]
  | .literal literal :: segments =>
    let rest := tables text segments
    literalTable literal.toList text (rest.headD []) :: rest
  | .placeholder _ :: segments =>
    let rest := tables text segments
    placeholderTable (rest.headD []) :: rest

/-- The position of the last entry that holds. -/
def lastHolding : List Bool → Option Nat
  | [] => none
  | b :: rest =>
    match lastHolding rest with
    | some k => some (k + 1)
    | none => if b then some 0 else none

/-- Cuts `text`, a suffix of a text with `size` characters, along the segments; `tables` are those
of the tails after the first segment, second, and so on. -/
def cutAlong (size : Nat) : List Segment → List (List Bool) → List Char →
    Option (List (List Char))
  | [], _, text => if text.isEmpty then some [] else none
  | .literal literal :: segments, tables, text =>
    if startsFolded literal.toList text then
      (cutAlong size segments tables.tail (text.drop literal.toList.length)).map
        (text.take literal.toList.length :: ·)
    else none
  | .placeholder _ :: segments, tables, text =>
    let shorter := ((tables.headD []).drop (size - text.length)).tail
    match lastHolding shorter with
    | none => none
    | some k => (cutAlong size segments tables.tail (text.drop (k + 1))).map
        (text.take (k + 1) :: ·)

/-- The pieces of a text, one for each segment, or `none` when the text does not match. -/
def cut (segments : List Segment) (text : List Char) : Option (List (List Char)) :=
  let tables := tables text segments
  if (tables.headD []).headD false then cutAlong text.length segments tables.tail text else none

end Phrasebook.Template
