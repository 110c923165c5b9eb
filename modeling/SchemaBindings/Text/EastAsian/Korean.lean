import SchemaBindings.Text.EastAsian.Front
import SchemaBindings.Text.EastAsian.KoreanTable
/-!
# Korean character sets

A set of pairs of high bytes, in which four pairs may also write a syllable by its letters; the set
of one vendor, which adds all other syllables in order; and the combining set, whose pairs hold the
three letters of a syllable in five bits each.
-/

set_option autoImplicit false
set_option relaxedAutoImplicit false

namespace SchemaBindings.Text.EastAsian

/-- The Korean set. -/
def koreanGrid : Grid := gridOf koreanRows

/-- The character of a pair of high bytes. -/
def korean? (first second : Nat) : Option Char :=
  koreanGrid.pair? 0xa1 first second

/-! ### Syllables by their letters -/

/-- The byte in front of each letter. -/
def letterByte : Nat := 0xa4

/-- The letter that stands for none. -/
def fillerByte : Nat := 0xd4

/-- The bytes of the consonants that lead a syllable, in their order there. -/
def leadingBytes : List Nat :=
  [0xa1, 0xa2, 0xa4, 0xa7, 0xa8, 0xa9, 0xb1, 0xb2, 0xb3, 0xb5, 0xb6, 0xb7, 0xb8, 0xb9, 0xba,
    0xbb, 0xbc, 0xbd, 0xbe]

/-- The bytes of the consonants that trail a syllable, in their order there. -/
def trailingBytes : List Nat :=
  [fillerByte, 0xa1, 0xa2, 0xa3, 0xa4, 0xa5, 0xa6, 0xa7, 0xa9, 0xaa, 0xab, 0xac, 0xad, 0xae,
    0xaf, 0xb0, 0xb1, 0xb2, 0xb4, 0xb5, 0xb6, 0xb7, 0xb8, 0xba, 0xbb, 0xbc, 0xbd, 0xbe]

/-- The syllable of a leading consonant, a vowel and a trailing consonant. -/
def syllableOf? (leading vowel trailing : Nat) : Option Char := do
  let first ← leadingBytes.idxOf? leading
  let last ← trailingBytes.idxOf? trailing
  if 0xbf ≤ vowel && vowel ≤ 0xd3 then
    some (Char.ofNat (0xac00 + (first * 21 + (vowel - 0xbf)) * 28 + last))
  else none

/-- The syllable of the seven bytes behind the first one of four pairs. -/
def lettersSyllable? : List Nat → Option Char
  | [_, a, leading, b, vowel, c, trailing] =>
    if a = letterByte && b = letterByte && c = letterByte then syllableOf? leading vowel trailing
    else none
  | _ => none

/-- The front of a sequence of pairs of high bytes. -/
def koreanFront (first : Nat) (rest : List UInt8) : Front :=
  if first < 0x80 then Front.ascii first
  else
    match (rest.take 7).map UInt8.toNat with
    | [] => Front.unfinished rest
    | second :: others =>
      if first = letterByte && second = fillerByte then
        if others.length < 6 then Front.unfinished rest
        else Front.ofChar? 8 (lettersSyllable? (second :: others.take 6))
      else Front.ofChar? 2 (korean? first second)

/-! ### The set of one vendor -/

/-- The syllables that the rows hold, in the order of their code points from the first syllable on.
-/
def heldSyllables : Array Bool :=
  koreanGrid.foldl (fun held cells =>
    cells.foldl (fun held c =>
      if 0xac00 ≤ c.toNat then held.setIfInBounds (c.toNat - 0xac00) true else held) held)
    (Array.replicate 11172 false)

/-- The syllables that the rows do not hold. -/
def otherSyllables : Array Char :=
  ((List.range 11172).filter fun index => !heldSyllables.getD index true).toArray.map fun index =>
    Char.ofNat (0xac00 + index)

/-- The place of the second byte of such a syllable: two runs of letters, and the high bytes. -/
def syllableCell? (second : Nat) : Option Nat :=
  if 0x41 ≤ second && second ≤ 0x5a then some (second - 0x41)
  else if 0x61 ≤ second && second ≤ 0x7a then some (second - 0x61 + 26)
  else if 0x81 ≤ second && second ≤ 0xfe then some (second - 0x81 + 52)
  else none

/-- The syllable of a pair that is one of the others in order: first in rows of a hundred and
seventy-eight, then in rows of eighty-four. -/
def otherSyllable? (first second : Nat) : Option Char := do
  let cell ← syllableCell? second
  if 0x81 ≤ first && first ≤ 0xa0 then otherSyllables[(first - 0x81) * 178 + cell]?
  else if 0xa1 ≤ first && first ≤ 0xc6 && cell < 84 then
    otherSyllables[32 * 178 + (first - 0xa1) * 84 + cell]?
  else none

/-- The character of a pair of one vendor. -/
def vendorKorean? (first second : Nat) : Option Char :=
  if first = letterByte && second = fillerByte then some '\u3164'
  else (korean? first second).or (otherSyllable? first second)

/-! ### The combining set -/

/-- What five bits say of a part of a syllable: that it is left out, or which letter it is. -/
inductive SyllablePart where
  | absent
  | letter (index : Nat)
  deriving DecidableEq, Repr

/-- The leading consonant of five bits. -/
def leadingPart? (bits : Nat) : Option SyllablePart :=
  if bits = 1 then some .absent
  else if 2 ≤ bits && bits ≤ 20 then some (.letter (bits - 2))
  else none

/-- The vowel of five bits: each eight of them hold at most six vowels. -/
def vowelPart? (bits : Nat) : Option SyllablePart :=
  if bits = 2 then some .absent
  else if bits ≤ 2 || bits % 8 < 2 || 30 ≤ bits then none
  else some (.letter (bits / 8 * 6 + bits % 8 - 3))

/-- The trailing consonant of five bits. -/
def trailingPart? (bits : Nat) : Option SyllablePart :=
  if bits = 1 then some .absent
  else if 2 ≤ bits && bits ≤ 17 then some (.letter (bits - 1))
  else if 19 ≤ bits && bits ≤ 29 then some (.letter (bits - 2))
  else none

/-- The letter with a byte behind the byte of letters. -/
def letterChar? (byte : Option Nat) : Option Char :=
  byte.map fun byte => Char.ofNat (0x3130 + (byte - 0xa0))

/-- The character of three parts: a syllable, a letter alone, or a wide space. -/
def charOfParts? : SyllablePart → SyllablePart → SyllablePart → Option Char
  | .absent, .absent, .absent => some '\u3000'
  | .absent, .absent, .letter trailing => letterChar? trailingBytes[trailing]?
  | .absent, .letter vowel, .absent => letterChar? (some (0xbf + vowel))
  | .letter leading, .absent, .absent => letterChar? leadingBytes[leading]?
  | .letter leading, .letter vowel, .absent =>
    some (Char.ofNat (0xac00 + (leading * 21 + vowel) * 28))
  | .letter leading, .letter vowel, .letter trailing =>
    some (Char.ofNat (0xac00 + (leading * 21 + vowel) * 28 + trailing))
  | _, _, _ => none

/-- The place of the second byte of a pair that writes no syllable: two runs of bytes, of which
those of a letter of the rows write nothing. -/
def symbolCell? (first second : Nat) : Option Nat :=
  if first = 0xda && 0xa1 ≤ second && second ≤ 0xd3 then none
  else if 0x31 ≤ second && second ≤ 0x7e then some (second - 0x31)
  else if 0x91 ≤ second && second ≤ 0xfe then some (second - 0x43)
  else none

/-- The character of a pair in the combining set: three parts of five bits, or a symbol or Chinese
character, of which each first byte has two rows. -/
def combining? (first second : Nat) : Option Char := do
  if first < 0xd8 then
    let leading ← leadingPart? (first / 4 % 32)
    let vowel ← vowelPart? (first % 4 * 8 + second / 32)
    let trailing ← trailingPart? (second % 32)
    charOfParts? leading vowel trailing
  else if first = 0xd8 || first = 0xdf || 0xf9 < first then none
  else if first = 0xda && second = 0xd4 then some '\u3164'
  else
    let cell ← symbolCell? first second
    let row := if first < 0xe0 then 2 * (first - 0xd9) else 2 * (first - 0xe0) + 41
    koreanGrid.char? (row + cell / 94) (cell % 94)

end SchemaBindings.Text.EastAsian
