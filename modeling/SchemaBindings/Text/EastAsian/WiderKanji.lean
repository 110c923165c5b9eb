import SchemaBindings.Text.EastAsian.Japanese
import SchemaBindings.Text.EastAsian.WiderKanjiTable
/-!
# The wider Japanese character set

The Japanese set of two planes: the first adds characters to the rows of the older set, some of them
a letter with a mark, and the second has rows of its own. It has two editions, of which the later
one fills some cells.
-/

set_option autoImplicit false
set_option relaxedAutoImplicit false

namespace SchemaBindings.Text.EastAsian

/-- An edition of the wider set. -/
inductive KanjiEdition where
  | first
  | later
  deriving DecidableEq, Repr

/-- The second plane. -/
def secondPlaneGrid : Grid := gridOf secondPlaneRows

namespace KanjiEdition

/-- The characters of a pair of low bytes in the first plane. -/
def firstPlane? (edition : KanjiEdition) (first second : Nat) : Option (List Char) :=
  if edition = .first && laterCells.contains (first, second) then none
  else
    let one := (kanjiGrid.pair? 0x21 first second).or (runChar? widerKanjiRuns first second)
    (one.map fun c => [c]).or (pairText? joinedKanji first second)

/-- The character of a cell in a row of the second plane, by the place of the row. Editions differ
in one cell. -/
def secondPlaneCell? (edition : KanjiEdition) (row cell : Nat) : Option Char :=
  match secondPlaneGrid.char? row cell with
  | some '鬜' => some (if edition = .first then '鬝' else '鬜')
  | found => found

/-- The character of a pair of low bytes in the second plane. -/
def secondPlane? (edition : KanjiEdition) (first second : Nat) : Option Char := do
  let row ← secondPlaneBytes.idxOf? first
  if 0x21 ≤ second then edition.secondPlaneCell? row (second - 0x21) else none

/-- The front of a sequence that begins with a pair for the first plane, given as low bytes. A cell
that only the later edition fills is at fault as a whole in the first one. -/
def pairFront (edition : KanjiEdition) (first second : Nat) : Front :=
  if edition = .first && laterCells.contains (first, second) then Front.badPair
  else Front.ofChars? 2 (edition.firstPlane? first second)

/-- The front of a sequence with high bytes. What the second plane leaves free belongs to the
supplement of the older set. -/
def highFront (edition : KanjiEdition) : Nat → List UInt8 → Front :=
  EastAsian.highFront (fun first second => edition.pairFront (first - 0x80) (second - 0x80))
    fun first second =>
      (edition.secondPlane? (first - 0x80) (second - 0x80)).or
        (furtherKanjiGrid.pair? 0xa1 first second)

/-- The front of a sequence that begins with a pair with a shifted first byte: the rows of the first
plane come before those of the second one. Two characters are the ASCII ones that the Roman letters
lack. -/
def shiftedPair (edition : KanjiEdition) (first second : Nat) : Front :=
  match shiftedCell? second with
  | none => Front.bad
  | some place =>
    let row := 2 * (if first < 0xe0 then first - 0x81 else first - 0xc1) + place / 94
    let cell := place % 94
    if row = 0 && cell = 31 then Front.ofChar? 2 (some '\\')
    else if row = 1 && cell = 17 then Front.ofChar? 2 (some '~')
    else if row < 94 then edition.pairFront (0x21 + row) (0x21 + cell)
    else Front.ofChar? 2 (edition.secondPlaneCell? (row - 94) cell)

/-- The front of a sequence with shifted first bytes and Roman letters. -/
def shiftedFront (edition : KanjiEdition) (first : Nat) (rest : List UInt8) : Front :=
  if first < 0x80 then Front.single (romanChar first)
  else if 0xa1 ≤ first && first ≤ 0xdf then Front.single (halfWidth first)
  else if first = 0x80 || first = 0xa0 || 0xfd ≤ first then Front.bad
  else
    match rest with
    | [] => Front.unfinished rest
    | second :: _ => edition.shiftedPair first second.toNat

end KanjiEdition

end SchemaBindings.Text.EastAsian
