import SchemaBindings.Text.Blank
/-!
# Lines

A text splits into lines after each line break; a carriage return followed by a line feed is one
break. Every line keeps its break, so the lines of a text concatenate to the text. `indentBy` puts
spaces in front of the lines that hold something other than white space.
-/

set_option autoImplicit false
set_option relaxedAutoImplicit false

namespace SchemaBindings.Text

/-- The characters after which a line ends. -/
def isBreak (c : Char) : Bool :=
  let code := c.toNat
  (0x0a ≤ code && code ≤ 0x0d) || (0x1c ≤ code && code ≤ 0x1e) || code == 0x85 ||
    code == 0x2028 || code == 0x2029

/-- Puts a character in front of the first line, or opens a line with it. -/
def consToFirst (c : Char) : List (List Char) → List (List Char)
  | [] => [[c]]
  | line :: lines => (c :: line) :: lines

/-- The lines of a text, each with its break. -/
def splitLines : List Char → List (List Char)
  | [] => []
  | '\r' :: '\n' :: rest => ['\r', '\n'] :: splitLines rest
  | c :: rest => if isBreak c then [c] :: splitLines rest else consToFirst c (splitLines rest)

/-- The part of a line before its break. -/
def lineBody (line : List Char) : List Char :=
  line.takeWhile fun c => !isBreak c

/-- The lines of a text without their ends, when a line ends in a line feed, a carriage return or
both in the order of a pair. -/
def bareLines : List Char → List (List Char)
  | [] => [[]]
  | '\r' :: '\n' :: rest => [] :: bareLines rest
  | c :: rest =>
    if c = '\n' || c = '\r' then [] :: bareLines rest else (bareLines rest).modifyHead (c :: ·)

/-- A text with every line end written as a line feed. -/
def unifyLineEnds : List Char → List Char
  | [] => []
  | '\r' :: '\n' :: rest => '\n' :: unifyLineEnds rest
  | '\r' :: rest => '\n' :: unifyLineEnds rest
  | c :: rest => c :: unifyLineEnds rest

/-- The number of spaces in one level of indentation. -/
def spacesPerLevel : Nat := 4

/-- The spaces of a level of indentation; a negative level has none. -/
def indentation (level : Int) : List Char :=
  List.replicate (level.toNat * spacesPerLevel) ' '

/-- One line moved to the right, unless it holds white space only. -/
def indentLine (level : Int) (line : List Char) : List Char :=
  if isAllBlank line then line else indentation level ++ line

/-- Every line of a text moved to the right by `level` levels. -/
def indentBy (level : Int) (text : List Char) : List Char :=
  (splitLines text).flatMap (indentLine level)

/-- A text moved to the right by `level` levels; at level zero it stays where it is. -/
def indentBlock (level : Int) (text : List Char) : List Char :=
  if level = 0 then text else indentBy level text

end SchemaBindings.Text
