import SchemaBindings.Text.Utf8
/-!
# Encodings of Unicode

The encodings of Unicode in units of one, two and four bytes. `Encoding.pieces` reads bytes into
characters with nothing in the place of each fault; lenient reading follows from it.
-/

set_option autoImplicit false
set_option relaxedAutoImplicit false

namespace SchemaBindings.Text

/-- Which byte of a unit comes first. -/
inductive ByteOrder where
  | big
  | little
  deriving DecidableEq, Repr

/-- An encoding. Where the byte order is not fixed, a byte order mark at the front fixes it; a mark
that is expected in UTF-8 is left out, and so is the start of one that never ends. -/
inductive Encoding where
  | utf8
  | utf8Marked
  | utf16 (order : Option ByteOrder)
  | utf32 (order : Option ByteOrder)
  deriving DecidableEq, Repr

/-! ### Units of two and four bytes -/

/-- The number that bytes write in a byte order. -/
def ByteOrder.value (order : ByteOrder) (bytes : List UInt8) : Nat :=
  let digits := match order with
    | big => bytes
    | little => bytes.reverse
  digits.foldl (fun value byte => value * 256 + byte.toNat) 0

/-- The units of two bytes in a sequence; an odd byte at the end is a fault. -/
def units16 (order : ByteOrder) : List UInt8 → List (Option Nat)
  | [] => []
  | [_] => [none]
  | a :: b :: rest => some (order.value [a, b]) :: units16 order rest

/-- The units of four bytes in a sequence; bytes left over at the end are a fault. -/
def units32 (order : ByteOrder) : List UInt8 → List (Option Nat)
  | [] => []
  | a :: b :: c :: d :: rest => some (order.value [a, b, c, d]) :: units32 order rest
  | _ :: _ => [none]

/-- The character with a given number, unless it is a surrogate or beyond the last character. -/
def charOfNumber? (number : Nat) : Option Char :=
  if h : number.isValidChar then some (Char.ofNatAux number h) else none

/-- Whether a unit opens a surrogate pair. -/
def isHighSurrogate (unit : Nat) : Bool :=
  0xd800 ≤ unit && unit ≤ 0xdbff

/-- Whether a unit closes a surrogate pair. -/
def isLowSurrogate (unit : Nat) : Bool :=
  0xdc00 ≤ unit && unit ≤ 0xdfff

/-- Joins surrogate pairs; a surrogate without its partner is a fault, which takes an odd byte at
the end with it. -/
def joinSurrogates : List (Option Nat) → List (Option Char)
  | [] => []
  | [some high, none] =>
    if isHighSurrogate high then [none] else [charOfNumber? high, none]
  | some high :: some low :: rest =>
    if isHighSurrogate high && isLowSurrogate low then
      charOfNumber? (0x10000 + (high - 0xd800) * 0x400 + (low - 0xdc00)) :: joinSurrogates rest
    else charOfNumber? high :: joinSurrogates (some low :: rest)
  | unit :: rest => unit.bind charOfNumber? :: joinSurrogates rest

namespace Encoding

/-! ### Reading -/

/-- Reads bytes into characters, with nothing in the place of each fault. -/
def pieces (encoding : Encoding) (bytes : List UInt8) : List (Option Char) :=
  match encoding with
  | utf8 => utf8Pieces bytes
  | utf8Marked =>
    match bytes with
    | 0xef :: 0xbb :: 0xbf :: rest => utf8Pieces rest
    | [0xef] | [0xef, 0xbb] => []
    | _ => utf8Pieces bytes
  | utf16 (some order) => joinSurrogates (units16 order bytes)
  | utf16 none =>
    match bytes with
    | 0xfe :: 0xff :: rest => joinSurrogates (units16 .big rest)
    | 0xff :: 0xfe :: rest => joinSurrogates (units16 .little rest)
    | _ => joinSurrogates (units16 .little bytes)
  | utf32 (some order) => (units32 order bytes).map fun unit => unit.bind charOfNumber?
  | utf32 none =>
    let (order, rest) : ByteOrder × List UInt8 := match bytes with
      | 0x00 :: 0x00 :: 0xfe :: 0xff :: rest => (.big, rest)
      | 0xff :: 0xfe :: 0x00 :: 0x00 :: rest => (.little, rest)
      | _ => (.little, bytes)
    (units32 order rest).map fun unit => unit.bind charOfNumber?

/-- The text of some bytes, with the replacement character in the place of each fault. -/
def decodeLenient (encoding : Encoding) (bytes : List UInt8) : List Char :=
  (encoding.pieces bytes).map fun piece => piece.getD '\ufffd'

end Encoding

end SchemaBindings.Text
