/-!
# Bits and prefix codes

Compressed data is a sequence of bits: of each byte the lowest bit comes first. Numbers are written
with their lowest bit first. A prefix code gives each of its symbols a word of at most fifteen bits,
so that no word begins with another. The lengths of the words fix the code: words of one length are
consecutive numbers in the order of their symbols, and the shorter words come first.
`PrefixCode.ofLengths?` builds the code and refuses lengths for which there is none, or which leave
words unused.
-/

set_option autoImplicit false
set_option relaxedAutoImplicit false

namespace SchemaBindings.Deflate

/-! ### Bits -/

/-- Bits that are still to be read. -/
abbrev Bits : Type := List Bool

/-- The lowest bits of a number, the lowest first. -/
def lowBits : (width : Nat) → Nat → Bits
  | 0, _ => []
  | width + 1, value => (value % 2 == 1) :: lowBits width (value / 2)

/-- The bits of some bytes. -/
def bitsOf (bytes : List UInt8) : Bits :=
  bytes.flatMap fun byte => lowBits 8 byte.toNat

/-- The number that some bits write. -/
def bitsValue : Bits → Nat
  | [] => 0
  | bit :: bits => bit.toNat + 2 * bitsValue bits

/-- A number of a width in bits from the front, and the bits behind it, unless they end before. -/
def takeNumber? (width : Nat) (bits : Bits) : Option (Nat × Bits) :=
  let front := bits.take width
  if front.length = width then some (bitsValue front, bits.drop width) else none

/-- The whole bytes at the front of some bits. -/
def bytesOf : Bits → List UInt8
  | a :: b :: c :: d :: e :: f :: g :: h :: rest =>
    (bitsValue [a, b, c, d, e, f, g, h]).toUInt8 :: bytesOf rest
  | _ => []

/-- Bits from the next byte on, where the bits end with a byte. -/
def nextByte (bits : Bits) : Bits :=
  bits.drop (bits.length % 8)

/-! ### Codes -/

/-- A prefix code: how many words there are of each length from one on, and the symbols in the order
of their words. -/
structure PrefixCode where
  counts : List Nat
  symbols : Array Nat
  deriving DecidableEq, Repr

/-- What comes of reading a word: its symbol and the bits behind it, or bits that begin no word, or
too few bits. -/
inductive WordRead where
  | symbol (symbol : Nat) (rest : Bits)
  | unknown
  | ended
  deriving Repr

namespace PrefixCode

/-- The longest word. -/
def maxLength : Nat := 15

/-- Reads on in a word of which `code` is the number so far with another bit to come. `first` is the
number of the first word of the next length, and `index` the place of its symbol. -/
def readFrom (symbols : Array Nat) (code first index : Nat) : List Nat → Bits → WordRead
  | [], _ => .unknown
  | _ :: _, [] => .ended
  | count :: counts, bit :: bits =>
    let code := code + bit.toNat
    if code < first + count then
      .symbol (symbols[index + (code - first)]?.getD 0) bits
    else readFrom symbols (2 * code) (2 * (first + count)) (index + count) counts bits

/-- Reads a word. -/
def read (code : PrefixCode) (bits : Bits) : WordRead :=
  readFrom code.symbols 0 0 0 code.counts bits

/-- How many words are left unused when words are counted from length one on; none if there are more
words than there can be. -/
def unused? (free : Nat) : List Nat → Option Nat
  | [] => some free
  | count :: counts => if count ≤ 2 * free then unused? (2 * free - count) counts else none

/-- The numbers of words of each length up to the longest one, and at least of length one. -/
def countsOf (lengths : List Nat) : List Nat :=
  let longest := lengths.foldl max 1
  (List.range longest).map fun length => lengths.count (length + 1)

/-- The symbols in the order of their words. -/
def symbolsOf (lengths : List Nat) : List Nat :=
  let numbered := lengths.zipIdx
  (List.range maxLength).flatMap fun length =>
    (numbered.filter fun entry => entry.1 = length + 1).map Prod.snd

/-- The code with words of given lengths; a length of zero is no word. Words may be left unused only
if `spare` allows it: by a code of one word of one bit. A code without words is always allowed. -/
def ofLengths? (spare : Bool) (lengths : List Nat) : Option PrefixCode :=
  let counts := countsOf lengths
  let code : PrefixCode := ⟨counts, (symbolsOf lengths).toArray⟩
  if lengths.all (· = 0) then some code
  else
    match unused? 1 counts with
    | none => none
    | some 0 => some code
    | some _ => if spare && counts.length = 1 then some code else none

end PrefixCode

end SchemaBindings.Deflate
