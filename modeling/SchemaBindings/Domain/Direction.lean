import SchemaBindings.Text.CodeRange
import SchemaBindings.Text.MarkTable
/-!
# Directions

The direction in which a character of a label is written, and whether the directions of a label fit
together. A label with a letter or a number that is written from right to left has one direction, by
its first character; it holds nothing that is bound to the other direction, ends with a letter or a
number, and does not mix two kinds of numbers.
-/

set_option autoImplicit false
set_option relaxedAutoImplicit false

namespace SchemaBindings.Domain

open SchemaBindings.Text

/-- A direction. Letters and numbers are bound to one, of which some go from right to left; the
others take that of their surroundings. -/
inductive Direction where
  | left
  | right
  | arabicLetter
  | arabicNumber
  | number
  | separator
  | mark
  | neutral
  | boundary
  deriving DecidableEq, Repr

/-- What is wrong with the directions of a label. -/
inductive DirectionFault where
  | first
  | inRightToLeft (position : Nat)
  | inLeftToRight (position : Nat)
  | mixedNumbers
  | ending
  deriving DecidableEq, Repr

/-! ### Characters -/

/-- Ranges of the letters that are written from right to left, other than Arabic ones. -/
def rightToLeftRanges : List (Nat × Nat) :=
  [(0x5d0, 0x5ea), (0x5ef, 0x5f4), (0x7c0, 0x7ea), (0x7f4, 0x7f5), (0x800, 0x815), (0x81a, 0x81a),
   (0x824, 0x824), (0x828, 0x828), (0x840, 0x858), (0x10800, 0x10805), (0x10808, 0x10808),
   (0x1080a, 0x10835), (0x10837, 0x10838), (0x1083c, 0x1083c), (0x1083f, 0x10855),
   (0x10860, 0x10876), (0x10880, 0x1089e), (0x108e0, 0x108f2), (0x108f4, 0x108f5),
   (0x10900, 0x10915), (0x10920, 0x10939), (0x10980, 0x109b7), (0x109be, 0x109bf),
   (0x10a00, 0x10a00), (0x10a10, 0x10a13), (0x10a15, 0x10a17), (0x10a19, 0x10a35),
   (0x10a60, 0x10a7c), (0x10a80, 0x10a9c), (0x10ac0, 0x10ac7), (0x10ac9, 0x10ae4),
   (0x10b00, 0x10b35), (0x10b40, 0x10b55), (0x10b60, 0x10b72), (0x10b80, 0x10b91),
   (0x10c00, 0x10c48), (0x10cc0, 0x10cf2), (0x10e80, 0x10ea9), (0x10eb0, 0x10eb1),
   (0x10f00, 0x10f1c), (0x10f27, 0x10f27), (0x10f70, 0x10f81), (0x10fb0, 0x10fc4),
   (0x10fe0, 0x10ff6), (0x1e800, 0x1e8c4), (0x1e922, 0x1e943), (0x1e94b, 0x1e94b),
   (0x1e950, 0x1e959)]

/-- Ranges of the Arabic letters. -/
def arabicLetterRanges : List (Nat × Nat) :=
  [(0x620, 0x63f), (0x641, 0x64a), (0x66e, 0x66f), (0x671, 0x674), (0x679, 0x6d3), (0x6d5, 0x6d5),
   (0x6e5, 0x6e6), (0x6ee, 0x6ef), (0x6fa, 0x6ff), (0x710, 0x710), (0x712, 0x72f), (0x74d, 0x7a5),
   (0x7b1, 0x7b1), (0x860, 0x86a), (0x870, 0x887), (0x889, 0x88e), (0x8a0, 0x8c9), (0xfe73, 0xfe73),
   (0x10d00, 0x10d23), (0x10f30, 0x10f45)]

/-- Ranges of the characters without a direction. -/
def neutralRanges : List (Nat × Nat) :=
  [(0xb7, 0xb7), (0x2b9, 0x2ba), (0x2c6, 0x2cf), (0x2ec, 0x2ec), (0x375, 0x375), (0x2e2f, 0x2e2f),
   (0x30fb, 0x30fb), (0xa67f, 0xa67f), (0xa717, 0xa71f), (0xa788, 0xa788)]

/-- The marks without room of their own that are written from left to right. -/
def leftMarks : List Nat :=
  [0xcbf, 0xcc6, 0x11a07, 0x11a08, 0x11c3f]

/-- The direction of a character that may stand in a label. -/
def directionOf (c : Char) : Direction :=
  let code := c.toNat
  if code = 0x2d then .separator
  else if inRanges [(0x30, 0x39), (0x6f0, 0x6f9)] code then .number
  else if inRanges [(0x660, 0x669), (0x10d30, 0x10d39)] code then .arabicNumber
  else if inRanges [(0x200c, 0x200d)] code then .boundary
  else if inRanges rightToLeftRanges code then .right
  else if inRanges arabicLetterRanges code then .arabicLetter
  else if inRanges neutralRanges code then .neutral
  else if inRanges nonspacingRanges code && !leftMarks.contains code then .mark
  else .left

namespace Direction

/-- Whether a direction makes the rules below apply to its label. -/
def isRightToLeft : Direction → Bool
  | right | arabicLetter | arabicNumber => true
  | left | number | separator | mark | neutral | boundary => false

/-- Whether a direction may stand in a label from right to left. -/
def fitsRightToLeft : Direction → Bool
  | left => false
  | right | arabicLetter | arabicNumber | number | separator | mark | neutral | boundary => true

/-- Whether a direction may stand in a label from left to right. -/
def fitsLeftToRight : Direction → Bool
  | right | arabicLetter | arabicNumber => false
  | left | number | separator | mark | neutral | boundary => true

/-- Whether a direction is that of a number. -/
def isNumber : Direction → Bool
  | arabicNumber | number => true
  | left | right | arabicLetter | separator | mark | neutral | boundary => false

/-- Whether a direction may end a label, but for marks behind it. -/
def mayEnd : Direction → Bool
  | left | right | arabicLetter | arabicNumber | number => true
  | separator | mark | neutral | boundary => false

end Direction

/-! ### Labels -/

/-- What is wrong with the directions in a label from right to left, from a position on and behind
numbers of a kind. -/
def rightToLeftFault? (position : Nat) (numbers : Option Direction) :
    List Direction → Option DirectionFault
  | [] => none
  | direction :: rest =>
    if !direction.fitsRightToLeft then some (.inRightToLeft position)
    else if direction.isNumber then
      if numbers.any (· != direction) then some .mixedNumbers
      else rightToLeftFault? (position + 1) (some direction) rest
    else rightToLeftFault? (position + 1) numbers rest

/-- What is wrong with the directions in a label from left to right. -/
def leftToRightFault? (directions : List Direction) : Option DirectionFault :=
  (directions.findIdx? fun direction => !direction.fitsLeftToRight).map fun index =>
    .inLeftToRight (index + 1)

/-- The fault of a label that ends with nothing but characters that may not end it. -/
def endingFault? (directions : List Direction) : Option DirectionFault :=
  match directions.reverse.dropWhile (· == .mark) with
  | direction :: _ => if direction.mayEnd then none else some .ending
  | [] => some .ending

/-- What is wrong with the directions of a label. -/
def directionFault? (label : List Char) : Option DirectionFault :=
  let directions := label.map directionOf
  if !directions.any Direction.isRightToLeft then none
  else
    match directions.head? with
    | some .right | some .arabicLetter =>
      (rightToLeftFault? 1 none directions).or (endingFault? directions)
    | some .left => (leftToRightFault? directions).or (endingFault? directions)
    | _ => some .first

end SchemaBindings.Domain
