/-!
# UTF-8

Writing and reading of UTF-8. A sequence that is not well formed is reported with the place and the
number of the bytes at fault: the longest start of a character that the next byte breaks off, one
byte that begins no character, or an unfinished character at the end.
-/

set_option autoImplicit false
set_option relaxedAutoImplicit false

namespace SchemaBindings.Text

/-- The bytes of a character. -/
def utf8Char (c : Char) : List UInt8 :=
  let code := c.toNat
  if code < 0x80 then [code.toUInt8]
  else if code < 0x800 then [(0xc0 + code / 0x40).toUInt8, (0x80 + code % 0x40).toUInt8]
  else if code < 0x10000 then
    [(0xe0 + code / 0x1000).toUInt8, (0x80 + code / 0x40 % 0x40).toUInt8,
      (0x80 + code % 0x40).toUInt8]
  else
    [(0xf0 + code / 0x40000).toUInt8, (0x80 + code / 0x1000 % 0x40).toUInt8,
      (0x80 + code / 0x40 % 0x40).toUInt8, (0x80 + code % 0x40).toUInt8]

/-- The bytes of a text. -/
def utf8 (text : List Char) : List UInt8 :=
  text.flatMap utf8Char

/-- The number of bytes of a text. -/
def utf8Size (text : List Char) : Nat :=
  (utf8 text).length

/-- What is wrong with a byte sequence. -/
inductive Utf8Fault where
  | invalidStart
  | invalidContinuation
  | unexpectedEnd
  deriving DecidableEq, Repr

/-- The text of a fault. -/
def Utf8Fault.message : Utf8Fault → String
  | invalidStart => "invalid start byte"
  | invalidContinuation => "invalid continuation byte"
  | unexpectedEnd => "unexpected end of data"

/-- The front of a byte sequence: a character and the bytes after it, or a fault and the number of
bytes at fault. -/
inductive Utf8Front where
  | char (c : Char) (size : Nat)
  | bad (fault : Utf8Fault) (size : Nat)
  deriving Repr

/-- Whether a byte continues a character. -/
def isContinuation (byte : Nat) : Bool :=
  0x80 ≤ byte && byte ≤ 0xbf

/-- Whether the second byte fits the first: neither an overlong form, nor a surrogate, nor a code
point above U+10FFFF. -/
def secondFits (first second : Nat) : Bool :=
  isContinuation second &&
    (if first = 0xe0 then 0xa0 ≤ second
     else if first = 0xed then second < 0xa0
     else if first = 0xf0 then 0x90 ≤ second
     else if first = 0xf4 then second < 0x90
     else true)

/-- The number of bytes of a character that begins with a given byte. -/
def utf8Width? (first : Nat) : Option Nat :=
  if first < 0x80 then some 1
  else if 0xc2 ≤ first && first ≤ 0xdf then some 2
  else if 0xe0 ≤ first && first ≤ 0xef then some 3
  else if 0xf0 ≤ first && first ≤ 0xf4 then some 4
  else none

/-- Reads the front of a byte sequence that begins with `first`. -/
def utf8Front (first : UInt8) (rest : List UInt8) : Utf8Front :=
  let a := first.toNat
  let further := (rest.take 3).map UInt8.toNat
  let atEnd := Utf8Front.bad .unexpectedEnd (further.length + 1)
  match utf8Width? a, further with
  | none, _ => .bad .invalidStart 1
  | some 1, _ => .char (Char.ofNat a) 1
  | some 2, b :: _ =>
    if isContinuation b then .char (Char.ofNat ((a - 0xc0) * 0x40 + (b - 0x80))) 2
    else .bad .invalidContinuation 1
  | some 3, [b] => if secondFits a b then atEnd else .bad .invalidContinuation 1
  | some 3, b :: c :: _ =>
    if !secondFits a b then .bad .invalidContinuation 1
    else if !isContinuation c then .bad .invalidContinuation 2
    else .char (Char.ofNat ((a - 0xe0) * 0x1000 + (b - 0x80) * 0x40 + (c - 0x80))) 3
  | some 4, [b] => if secondFits a b then atEnd else .bad .invalidContinuation 1
  | some 4, [b, c] =>
    if !secondFits a b then .bad .invalidContinuation 1
    else if !isContinuation c then .bad .invalidContinuation 2
    else atEnd
  | some 4, b :: c :: d :: _ =>
    if !secondFits a b then .bad .invalidContinuation 1
    else if !isContinuation c then .bad .invalidContinuation 2
    else if !isContinuation d then .bad .invalidContinuation 3
    else
      .char (Char.ofNat ((a - 0xf0) * 0x40000 + (b - 0x80) * 0x1000 + (c - 0x80) * 0x40 +
        (d - 0x80))) 4
  | some _, _ => atEnd

/-- A fault in a byte sequence: the first byte at fault with its place, and how many bytes are. -/
structure Utf8Error where
  fault : Utf8Fault
  byte : UInt8
  place : Nat
  size : Nat
  deriving DecidableEq, Repr

/-- Reads a byte sequence that begins at a given place. -/
def decodeUtf8From (place : Nat) : List UInt8 → Except Utf8Error (List Char)
  | [] => .ok []
  | first :: rest =>
    match utf8Front first rest with
    | .char c size => do
      let text ← decodeUtf8From (place + size) (rest.drop (size - 1))
      return c :: text
    | .bad fault size => .error ⟨fault, first, place, size⟩
termination_by bytes => bytes.length
decreasing_by simp only [List.length_drop, List.length_cons]; omega

/-- Reads a byte sequence. -/
def decodeUtf8 (bytes : List UInt8) : Except Utf8Error (List Char) :=
  decodeUtf8From 0 bytes

/-- Reads a byte sequence into characters, with nothing in the place of each fault. -/
def utf8Pieces : List UInt8 → List (Option Char)
  | [] => []
  | first :: rest =>
    match utf8Front first rest with
    | .char c size => some c :: utf8Pieces (rest.drop (size - 1))
    | .bad _ size => none :: utf8Pieces (rest.drop (size - 1))
termination_by bytes => bytes.length
decreasing_by all_goals simp only [List.length_drop, List.length_cons]; omega

end SchemaBindings.Text
