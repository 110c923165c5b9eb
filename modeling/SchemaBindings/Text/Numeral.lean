import SchemaBindings.Text.Blank
import SchemaBindings.Text.Case
import SchemaBindings.Text.Split
/-!
# Numerals

Numbers as users write them: decimal digits of any script, with single underscores between two
digits, a sign in front, and white space around the whole. `plainNumeral` brings a text into ASCII,
after which only ASCII digits are left to read.
-/

set_option autoImplicit false
set_option relaxedAutoImplicit false

namespace SchemaBindings.Text

/-- The code points beyond ASCII of the digits zero, in increasing order; the digits from one to
nine follow each of them. -/
def zeroDigits : List Nat :=
  [0x660, 0x6f0, 0x7c0, 0x966, 0x9e6, 0xa66, 0xae6, 0xb66, 0xbe6, 0xc66, 0xce6, 0xd66, 0xde6,
   0xe50, 0xed0, 0xf20, 0x1040, 0x1090, 0x17e0, 0x1810, 0x1946, 0x19d0, 0x1a80, 0x1a90, 0x1b50,
   0x1bb0, 0x1c40, 0x1c50, 0xa620, 0xa8d0, 0xa900, 0xa9d0, 0xa9f0, 0xaa50, 0xabf0, 0xff10,
   0x104a0, 0x10d30, 0x11066, 0x110f0, 0x11136, 0x111d0, 0x112f0, 0x11450, 0x114d0, 0x11650,
   0x116c0, 0x11730, 0x118e0, 0x11950, 0x11c50, 0x11d50, 0x11da0, 0x16a60, 0x16ac0, 0x16b50,
   0x1d7ce, 0x1d7d8, 0x1d7e2, 0x1d7ec, 0x1d7f6, 0x1e140, 0x1e2f0, 0x1e950, 0x1fbf0]

/-- A digit of any script as an ASCII digit; any other character as it is. -/
def plainDigit (c : Char) : Char :=
  match zeroDigits.find? fun first => first ≤ c.toNat && c.toNat ≤ first + 9 with
  | some first => Char.ofNat (0x30 + (c.toNat - first))
  | none => c

/-- White space around a numeral: all but the four ASCII information separators. -/
def isNumeralBlank (c : Char) : Bool :=
  isBlank c && !(0x1c ≤ c.toNat && c.toNat ≤ 0x1f)

/-- A numeral without the white space around it, and its digits in ASCII. -/
def plainNumeral (text : List Char) : List Char :=
  let front := text.dropWhile isNumeralBlank
  (front.reverse.dropWhile isNumeralBlank).reverse.map plainDigit

/-- The digits of a text that has nothing else but single underscores between two digits. -/
def spacedDigits? (text : List Char) : Option (List Char) :=
  let parts := splitAtEach '_' text
  if parts.all fun part => !part.isEmpty && part.all isDigit then some parts.flatten else none

/-- Whether a text is digits in which single underscores may stand between two digits. -/
def isSpacedDigits (text : List Char) : Bool :=
  (spacedDigits? text).isSome

/-- The most digits of an integer that is read. -/
def maxIntegerDigits : Nat := 4300

/-- The value of digits, unless there are too many of them. -/
def naturalValue? (text : List Char) : Option Nat :=
  match spacedDigits? text with
  | none => none
  | some digits =>
    if digits.length ≤ maxIntegerDigits then
      some (digits.foldl (fun value c => value * 10 + (c.toNat - 0x30)) 0)
    else none

/-- The integer that a text writes. -/
def integerValue? (text : List Char) : Option Int :=
  match plainNumeral text with
  | '-' :: digits => (naturalValue? digits).map fun value => -(value : Int)
  | '+' :: digits => (naturalValue? digits).map Int.ofNat
  | digits => (naturalValue? digits).map Int.ofNat

/-- A text without a sign in front of it. -/
def dropSign : List Char → List Char
  | '+' :: rest => rest
  | '-' :: rest => rest
  | rest => rest

/-- Whether a text is the digits of a number with a point somewhere among them, or without one. -/
def isPointed (text : List Char) : Bool :=
  match splitAtFirst? '.' text with
  | none => isSpacedDigits text
  | some (whole, fraction) =>
    (!whole.isEmpty || !fraction.isEmpty) && (whole.isEmpty || isSpacedDigits whole) &&
      (fraction.isEmpty || isSpacedDigits fraction)

/-- Whether a text is a number: digits with a point and an exponent, infinity, or no number at all
by name. The case of its letters does not count. -/
def isNumber (text : List Char) : Bool :=
  let unsigned := dropSign (lower (plainNumeral text))
  if ["inf", "infinity", "nan"].contains (String.ofList unsigned) then true
  else
    match splitAtFirst? 'e' unsigned with
    | none => isPointed unsigned
    | some (digits, exponent) => isPointed digits && isSpacedDigits (dropSign exponent)

end SchemaBindings.Text
