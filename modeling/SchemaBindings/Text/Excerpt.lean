import SchemaBindings.Text.Line
/-!
# Excerpts

A place in a text is shown by its line and column, the lines around it, and a mark under the
character. A long line is cut into pieces, of which those up to the place and the next one are
shown.
-/

set_option autoImplicit false
set_option relaxedAutoImplicit false

namespace SchemaBindings.Text

/-- A place in a text: its line and column, counted from one. -/
structure Place where
  line : Nat
  column : Nat
  deriving DecidableEq, Repr

/-- The place behind a text. -/
def Place.behind (text : List Char) : Place :=
  let lines := bareLines text
  { line := lines.length, column := (lines.getLast?.getD []).length + 1 }

/-- The longest line that is shown in one piece. -/
def maxExcerptLine : Nat := 120

/-- How long the pieces of a longer line are. -/
def excerptPiece : Nat := 80

/-- A text in pieces of a length, of which the last one may be shorter; `fuel` bounds their number.
-/
def pieces (length : Nat) : (fuel : Nat) → List Char → List (List Char)
  | 0, _ | _, [] => []
  | fuel + 1, text => text.take length :: pieces length fuel (text.drop length)

/-- A mark under a column; the column before the first one counts as the first. -/
def columnMark (column : Nat) : List Char :=
  List.replicate (column - 1) ' ' ++ ['^']

/-- The margin of a line of a number. -/
def lineMargin (number : Nat) : String :=
  toString number ++ " |"

/-- The margin of a line that continues the one above it. -/
def openMargin : String := "|"

/-- The lines of an excerpt, each with its margin. -/
def excerptLines (lines : List (List Char)) (place : Place) : List (String × List Char) :=
  let numbered (number : Nat) : List (String × List Char) :=
    match number with
    | 0 => []
    | index + 1 => (lines[index]?.map fun line => (lineMargin number, line)).toList
  let here := lines[place.line - 1]?.getD []
  if maxExcerptLine < here.length then
    let cut := pieces excerptPiece here.length here
    let row := place.column / excerptPiece
    let shown := cut.take (row + 1)
    let margins := lineMargin place.line :: shown.tail.map fun _ => openMargin
    margins.zip shown ++ [(openMargin, columnMark (place.column % excerptPiece))] ++
      (cut[row + 1]?.map fun piece => (openMargin, piece)).toList
  else
    numbered (place.line - 1) ++ numbered place.line ++ [(openMargin, columnMark place.column)] ++
      numbered (place.line + 1)

/-- Lines behind their margins, which are set flush right. -/
def joinMargins (lines : List (String × List Char)) : List Char :=
  let width := ((lines.map fun line => line.1.length).max?).getD 0
  let row (line : String × List Char) : List Char :=
    List.replicate (width - line.1.length) ' ' ++ line.1.toList ++
      (if line.2.isEmpty then [] else ' ' :: line.2)
  ((lines.map row).intersperse ['\n']).flatten

/-- The place of a number of characters into a text, with the title of the text and the lines
around it. -/
def excerpt (title : String) (text : List Char) (offset : Nat) : String :=
  let place := Place.behind (text.take offset)
  title ++ ":" ++ toString place.line ++ ":" ++ toString place.column ++ "\n" ++
    String.ofList (joinMargins (excerptLines (bareLines text) place))

end SchemaBindings.Text
