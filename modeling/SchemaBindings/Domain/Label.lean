import SchemaBindings.Domain.Direction
import SchemaBindings.Domain.Joining
import SchemaBindings.Domain.LabelTable
import SchemaBindings.Text.Quoted
/-!
# Labels

A label of a domain name is a composed text of letters, marks, digits and hyphens; some characters
may stand only beside certain others. `labelFault?` says what is wrong with a text as a label.
-/

set_option autoImplicit false
set_option relaxedAutoImplicit false

namespace SchemaBindings.Domain

open SchemaBindings.Text

/-- What is wrong with a label. A character at fault is given with its position and the label. -/
inductive LabelFault where
  | empty
  | notComposed
  | innerHyphens
  | outerHyphen
  | initialMark
  | character (c : Char) (position : Nat) (label : List Char)
  | surroundings (c : Char) (position : Nat) (label : List Char)
  | joiner (c : Char) (position : Nat) (label : List Char)
  | direction (fault : DirectionFault) (label : List Char)
  deriving DecidableEq, Repr

/-- A code point by its number, in at least four hexadecimal digits. -/
def codePointName (c : Char) : String :=
  let width := if c.toNat < 0x10000 then 4 else if c.toNat < 0x100000 then 5 else 6
  "U+" ++ String.ofList ((hexDigits width c.toNat).map Char.toUpper)

/-- The text about directions that do not fit. -/
def DirectionFault.message (fault : DirectionFault) (label : List Char) : String :=
  match fault with
  | first =>
    "First codepoint in label " ++ String.ofList (quoted label) ++
      " must be directionality L, R or AL"
  | inRightToLeft position =>
    "Invalid direction for codepoint at position " ++ toString position ++
      " in a right-to-left label"
  | inLeftToRight position =>
    "Invalid direction for codepoint at position " ++ toString position ++
      " in a left-to-right label"
  | mixedNumbers => "Can not mix numeral types in a right-to-left label"
  | ending => "Label ends with illegal codepoint directionality"

/-- The text of a fault. -/
def LabelFault.message : LabelFault → String
  | empty => "Empty Label"
  | notComposed => "Label must be in Normalization Form C"
  | innerHyphens => "Label has disallowed hyphens in 3rd and 4th position"
  | outerHyphen => "Label must not start or end with a hyphen"
  | initialMark => "Label begins with an illegal combining character"
  | character c position label =>
    "Codepoint " ++ codePointName c ++ " at position " ++ toString position ++ " of " ++
      String.ofList (quoted label) ++ " not allowed"
  | surroundings c position label =>
    "Codepoint " ++ codePointName c ++ " not allowed at position " ++ toString position ++ " in " ++
      String.ofList (quoted label)
  | joiner c position label =>
    "Unknown codepoint adjacent to joiner " ++ codePointName c ++ " at position " ++
      toString position ++ " in " ++ String.ofList (quoted label)
  | direction fault label => fault.message label

/-! ### Characters -/

/-- Whether a character may stand in a label wherever it is. -/
def isLabelChar (c : Char) : Bool :=
  inRanges labelRanges c.toNat ||
    alternateRanges.any fun range =>
      range.1 ≤ c.toNat && c.toNat ≤ range.2 && (c.toNat - range.1) % 2 = 0

/-- The code points of Greek characters. -/
def greekRanges : List (Nat × Nat) :=
  [(0x370, 0x373), (0x375, 0x377), (0x37a, 0x37d), (0x37f, 0x37f), (0x384, 0x384), (0x386, 0x386),
   (0x388, 0x38a), (0x38c, 0x38c), (0x38e, 0x3a1), (0x3a3, 0x3e1), (0x3f0, 0x3ff),
   (0x1d26, 0x1d2a), (0x1d5d, 0x1d61), (0x1d66, 0x1d6a), (0x1dbf, 0x1dbf), (0x1f00, 0x1f15),
   (0x1f18, 0x1f1d), (0x1f20, 0x1f45), (0x1f48, 0x1f4d), (0x1f50, 0x1f57), (0x1f59, 0x1f59),
   (0x1f5b, 0x1f5b), (0x1f5d, 0x1f5d), (0x1f5f, 0x1f7d), (0x1f80, 0x1fb4), (0x1fb6, 0x1fc4),
   (0x1fc6, 0x1fd3), (0x1fd6, 0x1fdb), (0x1fdd, 0x1fef), (0x1ff2, 0x1ff4), (0x1ff6, 0x1ffe),
   (0x2126, 0x2126), (0xab65, 0xab65), (0x10140, 0x1018e), (0x101a0, 0x101a0),
   (0x1d200, 0x1d245)]

/-- The code points of Hebrew characters. -/
def hebrewRanges : List (Nat × Nat) :=
  [(0x591, 0x5c7), (0x5d0, 0x5ea), (0x5ef, 0x5f4), (0xfb1d, 0xfb36), (0xfb38, 0xfb3c),
   (0xfb3e, 0xfb3e), (0xfb40, 0xfb41), (0xfb43, 0xfb44), (0xfb46, 0xfb4f)]

/-- The code points of Japanese syllables and Chinese characters. -/
def japaneseRanges : List (Nat × Nat) :=
  [(0x2e80, 0x2e99), (0x2e9b, 0x2ef3), (0x2f00, 0x2fd5), (0x3005, 0x3005), (0x3007, 0x3007),
   (0x3021, 0x3029), (0x3038, 0x303b), (0x3041, 0x3096), (0x309d, 0x309f), (0x30a1, 0x30fa),
   (0x30fd, 0x30ff), (0x31f0, 0x31ff), (0x32d0, 0x32fe), (0x3300, 0x3357), (0x3400, 0x4dbf),
   (0x4e00, 0x9fff), (0xf900, 0xfa6d), (0xfa70, 0xfad9), (0xff66, 0xff6f), (0xff71, 0xff9d),
   (0x16fe2, 0x16fe3), (0x16ff0, 0x16ff1), (0x1aff0, 0x1aff3), (0x1aff5, 0x1affb),
   (0x1affd, 0x1affe), (0x1b000, 0x1b122), (0x1b150, 0x1b152), (0x1b164, 0x1b167),
   (0x1f200, 0x1f200), (0x20000, 0x2a6df), (0x2a700, 0x2b739), (0x2b740, 0x2b81d),
   (0x2b820, 0x2cea1), (0x2ceb0, 0x2ebe0), (0x2ebf0, 0x2ee5d), (0x2f800, 0x2fa1d),
   (0x30000, 0x3134a), (0x31350, 0x323af)]

/-- Whether a label holds a character in one of some ranges. -/
def holdsAny (ranges : List (Nat × Nat)) (label : List Char) : Bool :=
  label.any fun c => inRanges ranges c.toNat

/-- Whether a character that depends on others may stand between two texts: a middle dot between two
small letters L, a Greek numeral sign before a Greek character, a Hebrew mark behind a Hebrew one, a
Japanese middle dot in a label with other Japanese characters, and digits of one of two Arabic kinds
in a label without the other kind. Nothing is said of other characters. -/
def fitsSurroundings? (before : List Char) (c : Char) (behind : List Char) : Option Bool :=
  let code := c.toNat
  if code = 0xb7 then some (before.getLast? == some 'l' && behind.head? == some 'l')
  else if code = 0x375 then some (behind.head?.any fun next => inRanges greekRanges next.toNat)
  else if code = 0x5f3 || code = 0x5f4 then
    some (before.getLast?.any fun last => inRanges hebrewRanges last.toNat)
  else if code = 0x30fb then some (holdsAny japaneseRanges (before ++ behind))
  else if 0x660 ≤ code && code ≤ 0x669 then some (!holdsAny [(0x6f0, 0x6f9)] (before ++ behind))
  else if 0x6f0 ≤ code && code ≤ 0x6f9 then some (!holdsAny [(0x660, 0x669)] (before ++ behind))
  else none

/-- What is wrong with a character of a label between two texts that may not stand everywhere. -/
def characterFault? (before : List Char) (c : Char) (behind : List Char) : Option LabelFault :=
  let label := before ++ c :: behind
  let position := before.length + 1
  if c = '\u200c' then
    if fitsNonJoiner before behind then none else some (.joiner c position label)
  else if c = '\u200d' then
    if endsWithVirama before then none else some (.joiner c position label)
  else
    match fitsSurroundings? before c behind with
    | some true => none
    | some false => some (.surroundings c position label)
    | none => some (.character c position label)

/-- What is wrong with the first character at fault in a label of which some has been passed; that
stands in reverse order. -/
def charactersFault? (passed : List Char) : List Char → Option LabelFault
  | [] => none
  | c :: rest =>
    if isLabelChar c then charactersFault? (c :: passed) rest
    else (characterFault? passed.reverse c rest).or (charactersFault? (c :: passed) rest)

/-! ### Labels -/

/-- What is wrong with the hyphens of a label. -/
def hyphenFault? (label : List Char) : Option LabelFault :=
  if (label.drop 2).take 2 == ['-', '-'] then some .innerHyphens
  else if label.head? == some '-' || label.getLast? == some '-' then some .outerHyphen
  else none

/-- The fault of a label that begins with a mark. -/
def initialMarkFault? (label : List Char) : Option LabelFault :=
  if label.head?.any fun c => inRanges (nonspacingRanges ++ spacingRanges) c.toNat then
    some .initialMark
  else none

/-- What is wrong with a label. -/
def labelFault? (label : List Char) : Option LabelFault :=
  if label.isEmpty then some .empty
  else if !isComposed label then some .notComposed
  else
    (hyphenFault? label).or <| (initialMarkFault? label).or <| (charactersFault? [] label).or <|
      (directionFault? label).map fun fault => .direction fault label

end SchemaBindings.Domain
