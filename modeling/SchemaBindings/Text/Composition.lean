import SchemaBindings.Text.CodeRange
import SchemaBindings.Text.CompositionTable
import SchemaBindings.Text.MarkTable
/-!
# Composed texts

A character with marks can often be written in more than one way. A text is composed when it holds
the composed characters wherever there are some, and the marks on one character in the order of
their classes. `isComposed` finds out by taking a text apart and composing it again.
-/

set_option autoImplicit false
set_option relaxedAutoImplicit false

namespace SchemaBindings.Text

/-- The class of a character among marks; zero if it is not ordered as a mark. -/
def markClass (c : Char) : Nat :=
  match markClasses.find? fun entry => inRanges entry.2 c.toNat with
  | some (number, _) => number
  | none => 0

/-! ### Hangul -/

/-- The first Hangul syllable. -/
def firstSyllable : Nat := 0xac00

/-- The first leading consonant, vowel and trailing consonant; a syllable without a trailing
consonant counts as one with the code point before the first. -/
def firstLeading : Nat := 0x1100

@[inherit_doc firstLeading]
def firstVowel : Nat := 0x1161

@[inherit_doc firstLeading]
def noTrailing : Nat := 0x11a7

/-- How many vowels there are. -/
def vowelCount : Nat := 21

/-- How many trailing consonants there are, with none of them as one. -/
def trailingCount : Nat := 28

/-- How many Hangul syllables there are. -/
def syllableCount : Nat := 19 * (vowelCount * trailingCount)

/-- The two parts of a Hangul syllable: the syllable before its trailing consonant, or a consonant
and a vowel. -/
def syllableParts? (code : Nat) : Option (Nat × Nat) :=
  let index := code - firstSyllable
  if code < firstSyllable || syllableCount ≤ index then none
  else if index % trailingCount = 0 then
    some (firstLeading + index / (vowelCount * trailingCount),
      firstVowel + index / trailingCount % vowelCount)
  else some (code - index % trailingCount, noTrailing + index % trailingCount)

/-- The Hangul syllable of two parts. -/
def syllable? (first second : Nat) : Option Nat :=
  let leading := first - firstLeading
  let index := first - firstSyllable
  if firstLeading ≤ first && leading < 19 && firstVowel ≤ second &&
      second - firstVowel < vowelCount then
    some (firstSyllable + (leading * vowelCount + (second - firstVowel)) * trailingCount)
  else if firstSyllable ≤ first && index < syllableCount && index % trailingCount = 0 &&
      noTrailing < second && second - noTrailing < trailingCount then
    some (first + (second - noTrailing))
  else none

/-! ### Taking apart -/

/-- The two parts of a composed character. -/
def parts? (code : Nat) : Option (Nat × Nat) :=
  (syllableParts? code).or <|
    compositions.findSome? fun (second, entries) =>
      (entries.find? fun entry => entry.2 = code).map fun entry => (entry.1, second)

/-- A character taken apart through some levels of parts. -/
def takeApart : (levels : Nat) → Nat → List Nat
  | 0, code => [code]
  | levels + 1, code =>
    match parts? code with
    | some (first, second) => takeApart levels first ++ [second]
    | none => [code]

/-- More levels of parts than there are. -/
def partLevels : Nat := 4

/-- Puts a mark at the end of a text, before the marks of higher classes there. The text stands in
reverse order. -/
def insertMark (mark : Char) : List Char → List Char
  | [] => [mark]
  | c :: rest =>
    if markClass mark < markClass c then c :: insertMark mark rest else mark :: c :: rest

/-- Marks in the order of their classes; those of one class keep their order. -/
def orderMarks (text : List Char) : List Char :=
  (text.foldl (fun ordered c =>
    if markClass c = 0 then c :: ordered else insertMark c ordered) []).reverse

/-! ### Composing -/

/-- The character that two characters compose to. -/
def compose? (first second : Char) : Option Char :=
  (syllable? first.toNat second.toNat).or
    ((compositions.lookup second.toNat).bind fun entries => entries.lookup first.toNat) |>.map
      Char.ofNat

/-- How far composing has come: the text before the last character that is no mark, that character,
and the marks behind it. Both texts stand in reverse order. -/
structure Composing where
  before : List Char := []
  base : Option Char := none
  marks : List Char := []
  deriving DecidableEq, Repr

/-- The text so far, in reverse order. -/
def Composing.text (state : Composing) : List Char :=
  state.marks ++ (state.base.toList ++ state.before)

/-- Takes another character: one with the base if they compose and nothing of the same or a higher
class stands between them. -/
def Composing.add (state : Composing) (c : Char) : Composing :=
  let free := match state.marks with
    | [] => true
    | mark :: _ => markClass mark < markClass c
  match if free then state.base.bind fun base => compose? base c else none with
  | some composed => { state with base := some composed }
  | none =>
    if markClass c = 0 then { before := state.text, base := some c }
    else { state with marks := c :: state.marks }

/-- A text taken apart and composed again. -/
def recompose (text : List Char) : List Char :=
  let apart := (text.flatMap fun c => takeApart partLevels c.toNat).map Char.ofNat
  ((orderMarks apart).foldl Composing.add {}).text.reverse

/-- Whether a text is composed. -/
def isComposed (text : List Char) : Bool :=
  !text.any (fun c => inRanges neverComposedRanges c.toNat) && recompose text == text

end SchemaBindings.Text
