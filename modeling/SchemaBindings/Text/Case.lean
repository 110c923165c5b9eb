import SchemaBindings.Text.CodeRange
import SchemaBindings.Text.CaseTable
/-!
# Letter case

Upper and lower case of a text under the full case mappings, where one character may become
several. Within ASCII the two maps exchange `a`–`z` and `A`–`Z` and are read off directly; beyond it
the tables of `CaseTable` decide. The capital sigma has two lower-case forms: it is final when a
cased letter precedes it and none follows, case-ignorable characters apart.
-/

set_option autoImplicit false
set_option relaxedAutoImplicit false

namespace SchemaBindings.Text

/-- One of the letters `A`–`Z`. -/
def isUpperLetter (c : Char) : Bool :=
  'A' ≤ c && c ≤ 'Z'

/-- One of the letters `a`–`z`. -/
def isLowerLetter (c : Char) : Bool :=
  'a' ≤ c && c ≤ 'z'

/-- One of the digits `0`–`9`. -/
def isDigit (c : Char) : Bool :=
  '0' ≤ c && c ≤ '9'

/-- The code point that a list of runs assigns to a code point, which is itself outside the runs. -/
def mapByRuns (runs : List (Nat × Nat × Nat × Int)) (code : Nat) : Nat :=
  match runs.find? fun (first, last, step, _) =>
      first ≤ code && code ≤ last && (code - first) % step == 0 with
  | some (_, _, _, offset) => (code + offset).toNat
  | none => code

/-- The characters that a table of sequences and a list of runs assign to a character. -/
def mapByTables (sequences : List (Nat × List Nat)) (runs : List (Nat × Nat × Nat × Int))
    (c : Char) : List Char :=
  match sequences.lookup c.toNat with
  | some codes => codes.map Char.ofNat
  | none => [Char.ofNat (mapByRuns runs c.toNat)]

/-- The upper case of one character. -/
def upperChar (c : Char) : List Char :=
  if c.toNat < 0x80 then [if isLowerLetter c then Char.ofNat (c.toNat - 32) else c]
  else mapByTables upperSequences upperRuns c

/-- The lower case of one character on its own. -/
def lowerChar (c : Char) : List Char :=
  if c.toNat < 0x80 then [if isUpperLetter c then Char.ofNat (c.toNat + 32) else c]
  else mapByTables lowerSequences lowerRuns c

/-- The upper case of a text. -/
def upper (text : List Char) : List Char :=
  text.flatMap upperChar

/-- Letters that decide whether a sigma is final. -/
def isCased (c : Char) : Bool :=
  if c.toNat < 0x80 then isUpperLetter c || isLowerLetter c else inRanges casedRanges c.toNat

/-- Characters that the search for a cased letter around a sigma passes over. -/
def isCaseIgnorable (c : Char) : Bool :=
  if c.toNat < 0x80 then ['\'', '.', ':', '^', '\x60'].contains c
  else inRanges caseIgnorableRanges c.toNat

/-- Whether the first character that is not case-ignorable exists and is cased. -/
def meetsCased (text : List Char) : Bool :=
  match text.find? fun c => !isCaseIgnorable c with
  | some c => isCased c
  | none => false

/-- The capital sigma. -/
def capitalSigma : Char := '\u03a3'

/-- The lower case of a text whose characters before it, the nearest first, are `before`. -/
def lowerAfter (before : List Char) : List Char → List Char
  | [] => []
  | c :: rest =>
    let mapped :=
      if c = capitalSigma then
        [if meetsCased before && !meetsCased rest then '\u03c2' else '\u03c3']
      else lowerChar c
    mapped ++ lowerAfter (c :: before) rest

/-- The lower case of a text. -/
def lower (text : List Char) : List Char :=
  lowerAfter [] text

end SchemaBindings.Text
