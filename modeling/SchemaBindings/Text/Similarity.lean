/-!
# Similar words

How much two words have in common: the length of their longest common stretch, with what the parts
before it and behind it have in common in turn. `closeWords` picks the words that have at least
three fifths in common with a given one.
-/

set_option autoImplicit false
set_option relaxedAutoImplicit false

namespace SchemaBindings.Text

/-- A stretch that two words have in common: where it begins in each of them, and its length. -/
structure CommonStretch where
  first : Nat
  second : Nat
  length : Nat
  deriving DecidableEq, Repr

/-- The number of characters that two words begin with in common. -/
def commonStart : List Char → List Char → Nat
  | a :: first, b :: second => if a = b then commonStart first second + 1 else 0
  | _, _ => 0

/-- The longest stretch that two words have in common; of several, the first one. -/
def longestCommon (first second : List Char) : CommonStretch :=
  (List.range first.length).foldl (fun best i =>
    (List.range second.length).foldl (fun best j =>
      let length := commonStart (first.drop i) (second.drop j)
      if length > best.length then ⟨i, j, length⟩ else best) best) ⟨0, 0, 0⟩

/-- The number of characters that two words have in common, where `fuel` bounds the number of
stretches one inside the other. -/
def commonCount : (fuel : Nat) → List Char → List Char → Nat
  | 0, _, _ => 0
  | fuel + 1, first, second =>
    let stretch := longestCommon first second
    if stretch.length = 0 then 0
    else
      stretch.length +
        commonCount fuel (first.take stretch.first) (second.take stretch.second) +
        commonCount fuel (first.drop (stretch.first + stretch.length))
          (second.drop (stretch.second + stretch.length))

/-- How much a word has in common with an option: twice the number of common characters, and the
number of all characters of both. -/
def similarity (option word : String) : Nat × Nat :=
  (2 * commonCount (option.length + 1) option.toList word.toList, option.length + word.length)

/-- Whether the first of two options comes before the second: it has more in common with the word,
or as much and the greater name. -/
def isCloser (word first second : String) : Bool :=
  let (a, b) := similarity first word
  let (c, d) := similarity second word
  a * d > c * b || (a * d == c * b && second ≤ first)

/-- The most options to pick. -/
def maxCloseWords : Nat := 3

/-- The options that have at least three fifths in common with a word, closest first. -/
def closeWords (word : String) (options : List String) : List String :=
  let close := options.filter fun option =>
    let (common, total) := similarity option word
    5 * common ≥ 3 * total
  (close.mergeSort (isCloser word)).take maxCloseWords

end SchemaBindings.Text
