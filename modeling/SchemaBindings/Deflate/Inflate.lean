import SchemaBindings.Deflate.Fault
import SchemaBindings.Deflate.PrefixCode
/-!
# Inflating

Compressed data is a sequence of blocks. A block holds bytes as they are, or symbols of two prefix
codes, which are standing ones or described in the block itself. A symbol is a byte, or the end of
the block, or a length, behind which a distance tells how far back the bytes of that length are
found in the output. `inflate` gives the output; data that ends within a block gives the output up
to there.
-/

set_option autoImplicit false
set_option relaxedAutoImplicit false

namespace SchemaBindings.Deflate

/-- What inflating comes to: all output and the bits behind the last block, or the output of data
that ends early, or a fault. -/
inductive Inflated where
  | whole (output : Array UInt8) (rest : Bits)
  | cut (output : Array UInt8)
  | faulty (fault : Fault)
  deriving Repr

/-! ### Lengths and distances -/

/-- The numbers that symbols stand for: the least one and how many further bits are added to it. -/
abbrev Spans : Type := List (Nat × Nat)

/-- Lengths of repeated bytes, from symbol 257 on. -/
def lengthSpans : Spans :=
  [(3, 0), (4, 0), (5, 0), (6, 0), (7, 0), (8, 0), (9, 0), (10, 0), (11, 1), (13, 1), (15, 1),
    (17, 1), (19, 2), (23, 2), (27, 2), (31, 2), (35, 3), (43, 3), (51, 3), (59, 3), (67, 4),
    (83, 4), (99, 4), (115, 4), (131, 5), (163, 5), (195, 5), (227, 5), (258, 0)]

/-- Distances of repeated bytes. -/
def distanceSpans : Spans :=
  [(1, 0), (2, 0), (3, 0), (4, 0), (5, 1), (7, 1), (9, 2), (13, 2), (17, 3), (25, 3), (33, 4),
    (49, 4), (65, 5), (97, 5), (129, 6), (193, 6), (257, 7), (385, 7), (513, 8), (769, 8),
    (1025, 9), (1537, 9), (2049, 10), (3073, 10), (4097, 11), (6145, 11), (8193, 12), (12289, 12),
    (16385, 13), (24577, 13)]

/-- The symbol for the end of a block. -/
def endOfBlock : Nat := 256

/-- Output with some more bytes, each of which is the one at a distance back. -/
def copyBack (output : Array UInt8) (distance : Nat) : (length : Nat) → Array UInt8
  | 0 => output
  | length + 1 =>
    copyBack (output.push (output[output.size - distance]?.getD 0)) distance length

/-- What comes of reading one thing: a value and the bits behind it, or too few bits, or a fault. -/
inductive Reading (α : Type) where
  | found (value : α) (rest : Bits)
  | ended
  | faulty (fault : Fault)
  deriving Repr

/-- Reads on behind a value. -/
def Reading.bind {α β : Type} (reading : Reading α) (next : α → Bits → Reading β) : Reading β :=
  match reading with
  | .found value rest => next value rest
  | .ended => .ended
  | .faulty fault => .faulty fault

/-- Reads a number of some width. -/
def readNumber (width : Nat) (bits : Bits) : Reading Nat :=
  match takeNumber? width bits with
  | some (value, rest) => .found value rest
  | none => .ended

/-- Reads a word of a code; bits that begin no word are the given fault. -/
def readWord (code : PrefixCode) (fault : Fault) (bits : Bits) : Reading Nat :=
  match code.read bits with
  | .symbol symbol rest => .found symbol rest
  | .unknown => .faulty fault
  | .ended => .ended

/-- Reads the further bits of a symbol. -/
def readSpan (spans : Spans) (symbol : Nat) (fault : Fault) (bits : Bits) : Reading Nat :=
  match spans[symbol]? with
  | none => .faulty fault
  | some (least, width) =>
    (readNumber width bits).bind fun further rest => .found (least + further) rest

/-! ### Symbols of a block -/

/-- The two codes of a block. -/
structure BlockCodes where
  literals : PrefixCode
  distances : PrefixCode
  deriving DecidableEq, Repr

/-- Reads the length that a symbol begins and the distance behind it. -/
def readCopy (codes : BlockCodes) (symbol : Nat) (bits : Bits) : Reading (Nat × Nat) :=
  (readSpan lengthSpans (symbol - (endOfBlock + 1)) .literal bits).bind fun length rest =>
  (readWord codes.distances .distance rest).bind fun word rest =>
  (readSpan distanceSpans word .distance rest).bind fun distance rest =>
    .found (length, distance) rest

/-- Reads the symbols of a block; each takes at least one bit, so that there are at most as many as
`fuel` when that is the number of bits. -/
def inflateSymbols (codes : BlockCodes) : (fuel : Nat) → Array UInt8 → Bits → Inflated
  | 0, output, _ => .cut output
  | fuel + 1, output, bits =>
    match readWord codes.literals .literal bits with
    | .ended => .cut output
    | .faulty fault => .faulty fault
    | .found symbol rest =>
      if symbol < endOfBlock then inflateSymbols codes fuel (output.push symbol.toUInt8) rest
      else if symbol = endOfBlock then .whole output rest
      else
        match readCopy codes symbol rest with
        | .ended => .cut output
        | .faulty fault => .faulty fault
        | .found (length, distance) rest =>
          if distance ≤ output.size then
            inflateSymbols codes fuel (copyBack output distance length) rest
          else .faulty .tooFarBack

/-! ### The codes of a block -/

/-- The codes of blocks that describe none. -/
def standingCodes : BlockCodes :=
  let literals := List.replicate 144 8 ++ List.replicate 112 9 ++ List.replicate 24 7 ++
    List.replicate 8 8
  { literals := ⟨PrefixCode.countsOf literals, (PrefixCode.symbolsOf literals).toArray⟩
    distances := ⟨[0, 0, 0, 0, 32], (List.range 32).toArray⟩ }

/-- The order in which the lengths of the words for lengths are written. -/
def lengthOrder : List Nat :=
  [16, 17, 18, 0, 8, 7, 9, 6, 10, 5, 11, 4, 12, 3, 13, 2, 14, 1, 15]

/-- Reads some numbers of three bits. -/
def readTriples : (count : Nat) → Bits → Reading (List Nat)
  | 0, bits => .found [] bits
  | count + 1, bits =>
    (readNumber 3 bits).bind fun value rest =>
    (readTriples count rest).bind fun values rest => .found (value :: values) rest

/-- The code in which lengths are written; when no length has a word, each single bit is the length
zero. -/
def lengthCode? (triples : List Nat) : Option PrefixCode :=
  let lengths := (List.range lengthOrder.length).map fun symbol =>
    (((lengthOrder.zip triples).lookup symbol).getD 0)
  if lengths.all (· = 0) then some ⟨[2], #[0, 0]⟩ else PrefixCode.ofLengths? false lengths

/-- Reads what a symbol of the code for lengths stands for, behind the lengths so far: a length
once, or a repetition of the last length or of zero. -/
def readLengths (symbol : Nat) (last : Option Nat) (bits : Bits) : Reading (List Nat) :=
  let repeated (value least width : Nat) : Reading (List Nat) :=
    (readNumber width bits).bind fun further rest =>
      .found (List.replicate (least + further) value) rest
  if symbol < 16 then .found [symbol] bits
  else if symbol = 16 then
    match last with
    | some value => repeated value 3 2
    | none => (readNumber 2 bits).bind fun _ _ => .faulty .lengthRepeat
  else if symbol = 17 then repeated 0 3 3
  else repeated 0 11 7

/-- Reads the lengths of all words until `missing` of them are there; those so far stand in reverse
order. Each symbol gives at least one length, so that there are at most `fuel` symbols when that
many lengths are missing. -/
def readAllLengths (code : PrefixCode) :
    (fuel missing : Nat) → List Nat → Bits → Reading (List Nat)
  | 0, _, lengths, bits => .found lengths.reverse bits
  | fuel + 1, missing, lengths, bits =>
    if missing = 0 then .found lengths.reverse bits
    else
      (readWord code .lengthsCode bits).bind fun symbol rest =>
      (readLengths symbol lengths.head? rest).bind fun more rest =>
        if more.length ≤ missing then
          readAllLengths code fuel (missing - more.length) (more ++ lengths) rest
        else .faulty .lengthRepeat

/-- The codes with words of given lengths: the first `literals` of them for literals, the others for
distances. -/
def codesOf (literals : Nat) (lengths : List Nat) : Except Fault BlockCodes :=
  if lengths[endOfBlock]?.getD 0 = 0 then .error .noEndOfBlock
  else
    match PrefixCode.ofLengths? true (lengths.take literals) with
    | none => .error .literalsCode
    | some first =>
      match PrefixCode.ofLengths? true (lengths.drop literals) with
      | none => .error .distancesCode
      | some second => .ok ⟨first, second⟩

/-- Reads the codes that a block describes. -/
def readCodes (bits : Bits) : Reading BlockCodes :=
  (readNumber 14 bits).bind fun sizes rest =>
    let literals := sizes % 32 + 257
    let distances := sizes / 32 % 32 + 1
    let triples := sizes / 1024 + 4
    if literals > 286 || distances > 30 then .faulty .tooManySymbols
    else
      (readTriples triples rest).bind fun values rest =>
        match lengthCode? values with
        | none => .faulty .lengthsCode
        | some code =>
          let count := literals + distances
          (readAllLengths code count count [] rest).bind fun lengths rest =>
            match codesOf literals lengths with
            | .error fault => .faulty fault
            | .ok codes => .found codes rest

/-! ### Blocks -/

/-- Inflates a block of bytes as they are. -/
def inflateStored (output : Array UInt8) (bits : Bits) : Inflated :=
  match readNumber 32 (nextByte bits) with
  | .ended => .cut output
  | .faulty fault => .faulty fault
  | .found sizes rest =>
    let size := sizes % 65536
    if size + sizes / 65536 != 65535 then .faulty .storedLength
    else
      let stored := bytesOf (rest.take (8 * size))
      let output := output ++ stored.toArray
      if stored.length = size then .whole output (rest.drop (8 * size)) else .cut output

/-- Inflates a block of a kind. -/
def inflateBlock (kind : Nat) (output : Array UInt8) (bits : Bits) : Inflated :=
  match kind with
  | 0 => inflateStored output bits
  | 1 => inflateSymbols standingCodes bits.length output bits
  | 2 =>
    match readCodes bits with
    | .ended => .cut output
    | .faulty fault => .faulty fault
    | .found codes rest => inflateSymbols codes rest.length output rest
  | _ => .faulty .blockType

/-- Inflates blocks up to the last one; each takes at least three bits. -/
def inflateBlocks : (fuel : Nat) → Array UInt8 → Bits → Inflated
  | 0, output, _ => .cut output
  | fuel + 1, output, bits =>
    match readNumber 3 bits with
    | .ended => .cut output
    | .faulty fault => .faulty fault
    | .found head rest =>
      match inflateBlock (head / 2) output rest with
      | .whole output rest =>
        if head % 2 = 1 then .whole output rest else inflateBlocks fuel output rest
      | other => other

/-- Inflates data. -/
def inflate (bits : Bits) : Inflated :=
  inflateBlocks bits.length #[] bits

end SchemaBindings.Deflate
