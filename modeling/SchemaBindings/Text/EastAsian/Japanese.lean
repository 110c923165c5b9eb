import SchemaBindings.Text.EastAsian.Front
import SchemaBindings.Text.EastAsian.JapaneseTable
/-!
# Japanese character sets

The Japanese sets of Chinese characters as pairs of bytes: both of them high, or with a shifted
first byte that leaves room for half-width letters of one byte.
-/

set_option autoImplicit false
set_option relaxedAutoImplicit false

namespace SchemaBindings.Text.EastAsian

/-- The Japanese set of Chinese characters. -/
def kanjiGrid : Grid := gridOf kanjiRows

/-- The supplement to that set. -/
def furtherKanjiGrid : Grid := gridOf furtherKanjiRows

/-- The rows that one vendor adds. -/
def vendorGrid : Grid := gridOf vendorRows

/-- The character of a low byte among the Roman letters, two of which differ from ASCII. -/
def romanChar (byte : Nat) : Char :=
  if byte = 0x5c then '¥' else if byte = 0x7e then '\u203e' else Char.ofNat byte

/-- The half-width letter of a byte. -/
def halfWidth (byte : Nat) : Char :=
  Char.ofNat (0xfec0 + byte)

/-- The front of a sequence with high bytes: a pair for the first plane, a mark and a byte for a
half-width letter, or a mark and a pair for the second plane. -/
def highFront (firstPlane : Nat → Nat → Front)
    (secondPlane? : Nat → Nat → Option Char) (first : Nat) (rest : List UInt8) : Front :=
  if first < 0x80 then Front.ascii first
  else if first = 0x8f then
    match rest with
    | second :: third :: _ => Front.ofChar? 3 (secondPlane? second.toNat third.toNat)
    | _ => Front.unfinished rest
  else
    match rest with
    | [] => Front.unfinished rest
    | second :: _ =>
      if first = 0x8e then
        if 0xa1 ≤ second.toNat && second.toNat ≤ 0xdf then
          Front.ofChar? 2 (some (halfWidth second.toNat))
        else Front.bad
      else firstPlane first second.toNat

/-- The front of a sequence with high bytes, where the supplement is the second plane. -/
def highKanjiFront : Nat → List UInt8 → Front :=
  highFront (fun first second => Front.ofChar? 2 (kanjiGrid.pair? 0xa1 first second))
    (furtherKanjiGrid.pair? 0xa1)

/-- The place of a second byte behind a shifted first one. -/
def shiftedCell? (second : Nat) : Option Nat :=
  if 0x40 ≤ second && second ≤ 0x7e then some (second - 0x40)
  else if 0x80 ≤ second && second ≤ 0xfc then some (second - 0x41)
  else none

/-- The character of a pair with a shifted first byte: each first byte has two rows. -/
def shiftedKanji? (first second : Nat) : Option Char := do
  let cell ← shiftedCell? second
  let row := 2 * (if first < 0xe0 then first - 0x81 else first - 0xc1)
  if cell < 94 then kanjiGrid.char? row cell else kanjiGrid.char? (row + 1) (cell - 94)

/-- The front of a sequence with shifted first bytes. -/
def shiftedFront (first : Nat) (rest : List UInt8) : Front :=
  if first < 0x80 then Front.ascii first
  else if 0xa1 ≤ first && first ≤ 0xdf then Front.single (halfWidth first)
  else if first = 0x80 || first = 0xa0 || 0xfd ≤ first then Front.bad
  else
    match rest with
    | [] => Front.unfinished rest
    | second :: _ => Front.ofChar? 2 (shiftedKanji? first second.toNat)

/-- The characters that one vendor has instead, by the second byte behind the first byte 0x81. -/
def vendorChanges : List (Nat × Char) :=
  [(0x60, '～'), (0x61, '∥'), (0x7c, '－'), (0x91, '￠'), (0x92, '￡'), (0xca, '￢')]

/-- The character of a pair of one vendor: one that it has instead or adds, one of the set, or one
for private use. -/
def vendorKanji? (first second : Nat) : Option Char :=
  let changed := if first = 0x81 then vendorChanges.lookup second else none
  let added := (vendorBytes.idxOf? first).bind fun index =>
    (shiftedCell? second).bind fun cell =>
      vendorGrid.char? (2 * index + cell / 94) (cell % 94)
  let usual :=
    if first ≤ 0x9f || (0xe0 ≤ first && first ≤ 0xea) then shiftedKanji? first second else none
  let reserved :=
    if 0xf0 ≤ first && first ≤ 0xf9 then
      (shiftedCell? second).map fun cell => Char.ofNat (0xe000 + 188 * (first - 0xf0) + cell)
    else none
  changed.or (added.or (usual.or reserved))

/-- The front of a sequence of one vendor with shifted first bytes. -/
def vendorFront (first : Nat) (rest : List UInt8) : Front :=
  if first ≤ 0x80 then Front.ascii first
  else if first = 0xa0 then Front.single '\uf8f0'
  else if 0xa1 ≤ first && first ≤ 0xdf then Front.single (halfWidth first)
  else if 0xfd ≤ first then Front.single (Char.ofNat (0xf8f1 + (first - 0xfd)))
  else
    match rest with
    | [] => Front.unfinished rest
    | second :: _ => Front.ofChar? 2 (vendorKanji? first second.toNat)

end SchemaBindings.Text.EastAsian
