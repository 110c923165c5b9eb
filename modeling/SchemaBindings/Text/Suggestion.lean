import SchemaBindings.Text.Case
/-!
# Suggestions for a misspelled name

The distance between two texts counts insertions, deletions, substitutions and swaps of neighbours,
where no character takes part in two edits. A difference in case alone is one edit. Options within a
distance that grows with the length of the input are suggested, the nearest first and then in
natural order, where runs of digits count as numbers.
-/

set_option autoImplicit false
set_option relaxedAutoImplicit false

namespace SchemaBindings.Text

/-! ### Distance -/

/-- The cells of a row in the table of distances to the right of the cell `left`. The row belongs to
`letter`, which follows `letterBefore`; `row` is the row above from the cell above `left` on, and
`rowBefore` the row above that one from the first cell that a swap can reach. -/
def distanceCells (letter : Char) (letterBefore : Option Char) (left : Nat)
    (targetBefore : Option Char) : List Char → List Nat → List Nat → List Nat
  | target :: targets, diagonal :: above :: row, rowBefore =>
    let edited :=
      min (min (above + 1) (left + 1)) (diagonal + if letter = target then 0 else 1)
    let swaps := letterBefore = some target && targetBefore = some letter
    let cell := if swaps then min edited ((rowBefore.head?.getD edited) + 1) else edited
    cell :: distanceCells letter letterBefore cell (some target) targets (above :: row)
      (if targetBefore.isSome then rowBefore.tail else rowBefore)
  | _, _, _ => []

/-- The last row of the table of distances, from the rows already made. -/
def distanceRows (target : List Char) (letterBefore : Option Char) (index : Nat)
    (rowBefore row : List Nat) : List Char → List Nat
  | [] => row
  | letter :: letters =>
    let next := index :: distanceCells letter letterBefore index none target row rowBefore
    distanceRows target (some letter) (index + 1) row next letters

/-- The number of edits between two texts. -/
def editDistance (source target : List Char) : Nat :=
  ((distanceRows target none 1 [] (List.range (target.length + 1)) source).getLast?).getD 0

/-- The distance between an input and an option, regardless of case unless case alone differs. -/
def spellingDistance (input option : List Char) : Nat :=
  if input = option then 0
  else if lower input = lower option then 1
  else editDistance (lower option) (lower input)

/-! ### Natural order -/

/-- The number written by a list of decimal digits. -/
def decimalValue (digits : List Char) : Nat :=
  digits.foldl (fun value digit => value * 10 + (digit.toNat - 0x30)) 0

/-- Compares two texts by code points. -/
def compareCodes : List Char → List Char → Ordering
  | [], [] => .eq
  | [], _ :: _ => .lt
  | _ :: _, [] => .gt
  | c :: first, d :: second =>
    if c < d then .lt else if d < c then .gt else compareCodes first second

/-- Compares two texts by their runs, where runs of digits count as numbers. The runs are taken in
turn, beginning with one that holds no digits; `fuel` bounds their number. -/
def compareRuns : (fuel : Nat) → List Char → List Char → Ordering
  | 0, _, _ => .eq
  | fuel + 1, first, second =>
    let words := compareCodes (first.takeWhile (!isDigit ·)) (second.takeWhile (!isDigit ·))
    let first := first.dropWhile (!isDigit ·)
    let second := second.dropWhile (!isDigit ·)
    let digits := first.takeWhile isDigit
    let digits' := second.takeWhile isDigit
    words.then <|
      match first, second with
      | [], [] => .eq
      | [], _ :: _ => .lt
      | _ :: _, [] => .gt
      | _ :: _, _ :: _ =>
        (compare (decimalValue digits) (decimalValue digits')).then <|
          (compareCodes digits digits').then <|
            compareRuns fuel (first.dropWhile isDigit) (second.dropWhile isDigit)

/-- The natural order of texts. -/
def naturalOrder (first second : List Char) : Ordering :=
  compareRuns (first.length + second.length + 1) first second

/-! ### Suggestions -/

/-- The options to suggest for an input, the best first and none twice. -/
def suggestions (input : String) (options : List String) : List String :=
  let limit := input.length * 2 / 5 + 1
  let near := options.eraseDups.filterMap fun option =>
    let distance := spellingDistance input.toList option.toList
    if distance ≤ limit then some (distance, option) else none
  let sorted := near.mergeSort fun (distance, option) (distance', option') =>
    ((compare distance distance').then (naturalOrder option.toList option'.toList)).isLE
  sorted.map Prod.snd

/-- How many options are suggested at most. -/
def maxSuggestions : Nat := 5

/-- A list in words: `a`, `a or b`, `a, b, or c`, with the given last word. -/
def wordList (lastWord : String) : List String → String
  | [] => ""
  | [one] => one
  | [one, two] => one ++ " " ++ lastWord ++ " " ++ two
  | items =>
    ", ".intercalate items.dropLast ++ ", " ++ lastWord ++ " " ++ items.getLast?.getD ""

/-- The question after a message, with an optional introduction to the suggested options. Without
options nothing is asked. -/
def didYouMean (introduction : String) (options : List String) : String :=
  match options.take maxSuggestions with
  | [] => ""
  | options =>
    " Did you mean " ++ introduction ++
      wordList "or" (options.map fun option => "'" ++ option ++ "'") ++ "?"

end SchemaBindings.Text
