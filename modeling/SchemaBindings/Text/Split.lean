/-!
# Splitting texts

A text between marks: its parts at every mark, and its two sides at the first or the last mark.
-/

set_option autoImplicit false
set_option relaxedAutoImplicit false

namespace SchemaBindings.Text

/-- Puts a character in front of the first of some parts. -/
def consToPart (c : Char) : List (List Char) → List (List Char)
  | [] => [[c]]
  | part :: parts => (c :: part) :: parts

/-- The parts of a text between the occurrences of a mark; one part more than there are marks. -/
def splitAtEach (mark : Char) : List Char → List (List Char)
  | [] => [[]]
  | c :: text =>
    if c = mark then [] :: splitAtEach mark text else consToPart c (splitAtEach mark text)

/-- The parts of a text joined with a mark between them. -/
def joinParts (mark : Char) (parts : List (List Char)) : List Char :=
  [mark].intercalate parts

/-- The text before and after the first occurrence of a mark. -/
def splitAtFirst? (mark : Char) (text : List Char) : Option (List Char × List Char) :=
  match text.dropWhile (· != mark) with
  | [] => none
  | _ :: after => some (text.takeWhile (· != mark), after)

/-- The text before and after the last occurrence of a mark. -/
def splitAtLast? (mark : Char) (text : List Char) : Option (List Char × List Char) :=
  (splitAtFirst? mark text.reverse).map fun (after, before) => (before.reverse, after.reverse)

/-- The strings between the occurrences of a mark in a string. -/
def splitString (mark : Char) (text : String) : List String :=
  (splitAtEach mark text.toList).map String.ofList

/-- How often a text holds a pattern, where no two occurrences overlap; the first `skip` characters
belong to an occurrence before them. -/
def countFrom (pattern : List Char) (skip : Nat) : List Char → Nat
  | [] => 0
  | c :: rest =>
    if skip > 0 then countFrom pattern (skip - 1) rest
    else if pattern.isPrefixOf (c :: rest) then countFrom pattern (pattern.length - 1) rest + 1
    else countFrom pattern 0 rest

/-- How often a text holds a pattern, where no two occurrences overlap. -/
def countOf (pattern text : List Char) : Nat :=
  countFrom pattern 0 text

end SchemaBindings.Text
