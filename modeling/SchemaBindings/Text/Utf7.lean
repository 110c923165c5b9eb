import SchemaBindings.Text.Encoding
/-!
# UTF-7

A form of Unicode in ASCII bytes. A plus sign begins a run of digits of base sixty-four that write
units of sixteen bits; any other character ends the run, and a hyphen is taken away with it. A plus
sign before a hyphen stands for itself.
-/

set_option autoImplicit false
set_option relaxedAutoImplicit false

namespace SchemaBindings.Text

/-- How far a run of digits has come: the bits that make no unit yet, with their number, and the
first half of a surrogate pair that waits for the second. -/
structure Utf7Run where
  value : Nat := 0
  width : Nat := 0
  high : Option Nat := none
  deriving DecidableEq, Repr

/-- The value of a digit of base sixty-four. -/
def digitOf64? (byte : UInt8) : Option Nat :=
  let code := byte.toNat
  if 0x41 ≤ code && code ≤ 0x5a then some (code - 0x41)
  else if 0x61 ≤ code && code ≤ 0x7a then some (code - 0x61 + 26)
  else if 0x30 ≤ code && code ≤ 0x39 then some (code - 0x30 + 52)
  else if code = 0x2b then some 62
  else if code = 0x2f then some 63
  else none

namespace Utf7Run

/-- What a complete unit gives, and the first half of a pair that it may be. -/
def takeUnit (high : Option Nat) (unit : Nat) : List (Option Char) × Option Nat :=
  let alone := if isHighSurrogate unit then ([], some unit) else ([charOfNumber? unit], none)
  match high with
  | none => alone
  | some first =>
    if isLowSurrogate unit then
      ([charOfNumber? (0x10000 + (first - 0xd800) * 0x400 + (unit - 0xdc00))], none)
    else (none :: alone.1, alone.2)

/-- A run with another digit, and the characters that it completes. -/
def add (run : Utf7Run) (digit : Nat) : List (Option Char) × Utf7Run :=
  let value := run.value * 64 + digit
  let width := run.width + 6
  if width < 16 then ([], { run with value, width })
  else
    let rest := width - 16
    let (pieces, high) := takeUnit run.high (value / Nat.pow 2 rest)
    (pieces, ⟨value % Nat.pow 2 rest, rest, high⟩)

/-- Whether a run may not end: bits are left over that are no padding. -/
def isPartial (run : Utf7Run) : Bool :=
  6 ≤ run.width || run.value != 0

/-- What a run gives at the end of the bytes. -/
def atEnd (run : Utf7Run) : List (Option Char) :=
  if run.high.isSome || run.isPartial then [none] else []

/-- What a run gives before a byte that ends it, and whether it takes the byte with it. -/
def leave (run : Utf7Run) (byte : UInt8) : List (Option Char) × Bool :=
  if run.isPartial then ([none], true)
  else (if run.high.isSome && byte < 0x80 then [none] else [], byte == 0x2d)

end Utf7Run

/-- The character of a byte outside a run. -/
def utf7Char? (byte : UInt8) : Option Char :=
  if byte < 0x80 then some (Char.ofNat byte.toNat) else none

/-- Reads bytes into characters within a run or outside one, with nothing in the place of each
fault. -/
def utf7Pieces : Option Utf7Run → List UInt8 → List (Option Char)
  | none, [] => []
  | some run, [] => run.atEnd
  | some run, byte :: rest =>
    match digitOf64? byte with
    | some digit =>
      let (pieces, run) := run.add digit
      pieces ++ utf7Pieces (some run) rest
    | none =>
      let (pieces, taken) := run.leave byte
      pieces ++ (if taken then [] else [utf7Char? byte]) ++ utf7Pieces none rest
  | none, [byte] => if byte = 0x2b then [] else [utf7Char? byte]
  | none, byte :: next :: rest =>
    if byte != 0x2b then utf7Char? byte :: utf7Pieces none (next :: rest)
    else if next = 0x2d then some '+' :: utf7Pieces none rest
    else if (digitOf64? next).isNone then none :: utf7Pieces none rest
    else utf7Pieces (some {}) (next :: rest)

end SchemaBindings.Text
