import SchemaBindings.Text.EastAsian.Front
import SchemaBindings.Text.EastAsian.SimplifiedTable
/-!
# Simplified Chinese character sets

A set of pairs of high bytes; an extended set, which adds all other Chinese characters of the first
Unicode block in order; and the largest set, in which four bytes count through all other characters.
In one form, a tilde switches between ASCII and pairs of low bytes.
-/

set_option autoImplicit false
set_option relaxedAutoImplicit false

namespace SchemaBindings.Text.EastAsian

/-- The set of simplified Chinese characters. -/
def hanziGrid : Grid := gridOf hanziRows

/-- The character of a pair of high bytes. -/
def highHanzi? (first second : Nat) : Option Char :=
  hanziGrid.pair? 0xa1 first second

/-! ### The extended set -/

/-- Which code points below 0x10000 the rows hold. -/
def heldHanzi : Array Bool :=
  hanziGrid.foldl (fun held cells =>
    cells.foldl (fun held c => held.setIfInBounds c.toNat true) held)
    (Array.replicate 0x10000 false)

/-- The Chinese characters of the first block that the rows do not hold. -/
def otherHanzi : Array Char :=
  (((List.range 20902).map (0x4e00 + ·)).filter fun code => !heldHanzi.getD code true).toArray.map
    Char.ofNat

/-- The place of a second byte that may be low or high. -/
def hanziCell? (second : Nat) : Option Nat :=
  if 0x40 ≤ second && second ≤ 0x7e then some (second - 0x40)
  else if 0x80 ≤ second && second ≤ 0xfe then some (second - 0x41)
  else none

/-- The character of a pair that is one of the others in order: first in rows of a hundred and
ninety, then in rows of ninety-six. -/
def otherHanzi? (first second : Nat) : Option Char := do
  let cell ← hanziCell? second
  if 0x81 ≤ first && first ≤ 0xa0 then otherHanzi[(first - 0x81) * 190 + cell]?
  else if 0xaa ≤ first && first ≤ 0xfe && cell < 96 then
    otherHanzi[32 * 190 + (first - 0xaa) * 96 + cell]?
  else none

/-- The character of a pair in the extended set. -/
def extendedHanzi? (first second : Nat) : Option Char :=
  (runChar? addedHanziRuns first second).or
    ((highHanzi? first second).or (otherHanzi? first second))

/-! ### The largest set -/

/-- The character of a pair in the largest set. -/
def largestHanzi? (first second : Nat) : Option Char :=
  (extendedHanzi? first second).or <|
    furtherHanziRuns.findSome? fun (row, start, code, count) => do
      let from? ← hanziCell? start
      let cell ← hanziCell? second
      if row = first && from? ≤ cell && cell - from? < count then
        some (Char.ofNat (code + (cell - from?)))
      else none

/-- The character that a number of four bytes counts to in the first block. -/
def countedChar? (number : Nat) : Option Char :=
  if number < 39420 then
    (countedRanges.reverse.find? fun range => range.1 ≤ number).map fun range =>
      Char.ofNat (range.2 + (number - range.1))
  else none

/-- The character of four bytes. -/
def fourBytes? (a b c d : Nat) : Option Char :=
  if a < 0x81 || 0xfe < a || c < 0x81 || 0xfe < c || d < 0x30 || 0x39 < d then none
  else
    let number (a : Nat) : Nat := ((a * 10 + (b - 0x30)) * 126 + (c - 0x81)) * 10 + (d - 0x30)
    if a < 0x85 then countedChar? (number (a - 0x81))
    else if 0x90 ≤ a && 0x10000 + number (a - 0x90) ≤ 0x10ffff then
      some (Char.ofNat (0x10000 + number (a - 0x90)))
    else none

/-- The front of a sequence in the largest set. -/
def largestFront (first : Nat) (rest : List UInt8) : Front :=
  if first < 0x80 then Front.ascii first
  else
    match (rest.take 7).map UInt8.toNat with
    | [] => Front.unfinished rest
    | second :: others =>
      if 0x30 ≤ second && second ≤ 0x39 then
        match others with
        | third :: fourth :: _ => Front.ofChar? 4 (fourBytes? first second third fourth)
        | _ => Front.unfinished rest
      else Front.ofChar? 2 (largestHanzi? first second)

/-! ### Switching by tildes -/

/-- Reads a sequence in which tildes switch to pairs of low bytes and back. -/
def tildePieces (pairs : Bool) : List UInt8 → List (Option Char)
  | [] => []
  | 0x7e :: [] => [none]
  | 0x7e :: next :: rest =>
    if !pairs && next = 0x7e then some '~' :: tildePieces pairs rest
    else if !pairs && next = 0x7b then tildePieces true rest
    else if !pairs && next = 0x0a then tildePieces pairs rest
    else if pairs && next = 0x7d then tildePieces false rest
    else none :: tildePieces pairs (next :: rest)
  | byte :: rest =>
    if 0x80 ≤ byte then none :: tildePieces pairs rest
    else if !pairs then some (Char.ofNat byte.toNat) :: tildePieces pairs rest
    else
      match rest with
      | [] => [none]
      | next :: others =>
        match hanziGrid.pair? 0x21 byte.toNat next.toNat with
        | some c => some c :: tildePieces pairs others
        | none => none :: tildePieces pairs (next :: others)
termination_by bytes => bytes.length
decreasing_by all_goals simp only [List.length_cons]; omega

end SchemaBindings.Text.EastAsian
