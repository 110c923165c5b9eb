/-!
# Double-precision numbers

A floating-point number of 64 bits as an exact value: a sign, a mantissa below `2 ^ 53` and a power
of two. `ofDecimal` reads a decimal number, rounding to the nearest value and a tie to the even
mantissa; `shortest` finds the fewest decimal digits that read back as the value, and of two such
numbers the nearer. All of it is exact arithmetic on natural numbers.
-/

set_option autoImplicit false
set_option relaxedAutoImplicit false

namespace SchemaBindings

/-- A double-precision number: `± mantissa * 2 ^ exponent`, an infinity, or not a number. -/
inductive Binary64 where
  | finite (negative : Bool) (mantissa : Nat) (exponent : Int)
  | infinite (negative : Bool)
  | nan
  deriving DecidableEq, Repr

namespace Binary64

/-- The least exponent, which zero and the subnormal numbers have. -/
def minExponent : Int := -1074

/-- The greatest exponent of a finite number. -/
def maxExponent : Int := 971

/-- Zero of a given sign. -/
def zero (negative : Bool) : Binary64 :=
  finite negative 0 minExponent

/-- One. -/
def one : Binary64 :=
  finite false (1 <<< 52) (-52)

/-- Whether a number is zero, of either sign. -/
def isZero : Binary64 → Bool
  | finite _ mantissa _ => mantissa == 0
  | infinite _ | nan => false

/-- The integer that a number is, if it is one. -/
def toInt? : Binary64 → Option Int
  | finite negative mantissa exponent =>
    let divisor := 1 <<< (-exponent).toNat
    let whole : Int := mantissa <<< exponent.toNat / divisor
    if mantissa % divisor = 0 then some (if negative then -whole else whole) else none
  | infinite _ | nan => none

/-! ### Reading -/

/-- The quotient of two numbers rounded to the nearest integer, a tie to the even one. -/
def roundQuotient (numerator denominator : Nat) : Nat :=
  let quotient := numerator / denominator
  let twice := 2 * (numerator % denominator)
  if twice < denominator then quotient
  else if denominator < twice then quotient + 1
  else quotient + quotient % 2

/-- The numerator and denominator of a fraction divided by a power of two. -/
def scale (numerator denominator : Nat) (exponent : Int) : Nat × Nat :=
  if 0 ≤ exponent then (numerator, denominator <<< exponent.toNat)
  else (numerator <<< (-exponent).toNat, denominator)

/-- The exponent that leaves 53 binary digits before the point of a fraction, but no less than the
least exponent. -/
def exponentFor (numerator denominator : Nat) : Int :=
  let guess := (numerator.log2 : Int) - (denominator.log2 : Int) - 52
  let (scaled, divisor) := scale numerator denominator guess
  max minExponent (if scaled < divisor <<< 52 then guess - 1 else guess)

/-- The value nearest to a fraction. -/
def ofFraction (negative : Bool) (numerator denominator : Nat) : Binary64 :=
  if numerator = 0 then zero negative
  else
    let exponent := exponentFor numerator denominator
    let (scaled, divisor) := scale numerator denominator exponent
    let mantissa := roundQuotient scaled divisor
    let (mantissa, exponent) :=
      if mantissa = 1 <<< 53 then (1 <<< 52, exponent + 1) else (mantissa, exponent)
    if maxExponent < exponent then infinite negative else finite negative mantissa exponent

/-- The value nearest to `± digits * 10 ^ exponent`, where `digits` has `count` decimal digits.
Beyond `10 ^ 310` every value is infinite and below `10 ^ -330` it is zero, so that the powers of
ten that are computed stay small. -/
def ofDecimal (negative : Bool) (digits count : Nat) (exponent : Int) : Binary64 :=
  if digits = 0 then zero negative
  else if 310 < count + exponent then infinite negative
  else if count + exponent < -330 then zero negative
  else if 0 ≤ exponent then ofFraction negative (digits * Nat.pow 10 exponent.toNat) 1
  else ofFraction negative digits (Nat.pow 10 (-exponent).toNat)

/-- The value nearest to an integer. -/
def ofInt (value : Int) : Binary64 :=
  ofFraction (value < 0) value.natAbs 1

/-! ### Shortest digits -/

/-- A decimal number `digits * 10 ^ exponent`. -/
structure Decimal where
  digits : Nat
  exponent : Int
  deriving DecidableEq, Repr

/-- The decimal digits of a number. -/
def digitChars (value : Nat) : List Char :=
  Nat.toDigits 10 value

/-- A finite value without its sign as a fraction. -/
def toFraction (mantissa : Nat) (exponent : Int) : Nat × Nat :=
  if 0 ≤ exponent then (mantissa <<< exponent.toNat, 1)
  else (mantissa, 1 <<< (-exponent).toNat)

/-- The exponent of ten of the first decimal digit of a positive fraction. -/
def leadingExponent (numerator denominator : Nat) : Int :=
  let guess : Int := (digitChars numerator).length - (digitChars denominator).length
  if 0 ≤ guess then
    if numerator < denominator * Nat.pow 10 guess.toNat then guess - 1 else guess
  else if numerator * Nat.pow 10 (-guess).toNat < denominator then guess - 1 else guess

/-- The two neighbours of a fraction among the multiples of a power of ten, the nearer first. -/
def neighbours (numerator denominator : Nat) (exponent : Int) : List Decimal :=
  let (scaled, divisor) :=
    if 0 ≤ exponent then (numerator, denominator * Nat.pow 10 exponent.toNat)
    else (numerator * Nat.pow 10 (-exponent).toNat, denominator)
  let low := scaled / divisor
  let twice := 2 * (scaled % divisor)
  let lowFirst := twice < divisor || (twice == divisor && low % 2 == 0)
  if lowFirst then [⟨low, exponent⟩, ⟨low + 1, exponent⟩]
  else [⟨low + 1, exponent⟩, ⟨low, exponent⟩]

/-- Whether a decimal number reads back as a positive finite value. -/
def readsBack (mantissa : Nat) (exponent : Int) (decimal : Decimal) : Bool :=
  ofDecimal false decimal.digits (digitChars decimal.digits).length decimal.exponent ==
    finite false mantissa exponent

/-- The whole decimal expansion of a finite value. -/
def expansion (mantissa : Nat) (exponent : Int) : Decimal :=
  if 0 ≤ exponent then ⟨mantissa <<< exponent.toNat, 0⟩
  else ⟨mantissa * Nat.pow 5 (-exponent).toNat, exponent⟩

/-- The decimal number with the fewest digits, at most seventeen, that reads back as a positive
finite value. Seventeen digits always do; the expansion stands in for a case that does not
arise. -/
def shortest (mantissa : Nat) (exponent : Int) : Decimal :=
  let (numerator, denominator) := toFraction mantissa exponent
  let leading := leadingExponent numerator denominator
  let candidates := (List.range 17).flatMap fun (extra : Nat) =>
    neighbours numerator denominator (leading - extra)
  match candidates.find? (readsBack mantissa exponent) with
  | some decimal => decimal
  | none => expansion mantissa exponent

/-! ### Writing -/

/-- A decimal number without the zeros at the end of its digits, as digits and the number of places
before the point. -/
def placed (decimal : Decimal) : List Char × Int :=
  let digits := digitChars decimal.digits
  let kept := (digits.reverse.dropWhile (· == '0')).reverse
  (kept, digits.length + decimal.exponent)

/-- The exponent part of a number in scientific notation: a sign and at least two digits. -/
def exponentText (exponent : Int) : List Char :=
  let digits := digitChars exponent.natAbs
  (if exponent < 0 then '-' else '+') :: (if digits.length < 2 then '0' :: digits else digits)

/-- Digits with a given number of places before the point. Numbers from `0.0001` up to below
`10 ^ 16` are written out, with at least one digit after the point; the others in scientific
notation. -/
def layout (digits : List Char) (places : Int) : List Char :=
  if places ≤ -4 || 16 < places then
    match digits with
    | [] => []
    | first :: rest =>
      let tail := if rest.isEmpty then [] else '.' :: rest
      first :: (tail ++ 'e' :: exponentText (places - 1))
  else if places ≤ 0 then '0' :: '.' :: (List.replicate (-places).toNat '0' ++ digits)
  else if digits.length ≤ places.toNat then
    digits ++ List.replicate (places.toNat - digits.length) '0' ++ ['.', '0']
  else digits.take places.toNat ++ '.' :: digits.drop places.toNat

/-- The text of a finite value. -/
def finiteText (negative : Bool) (mantissa : Nat) (exponent : Int) : List Char :=
  let body :=
    if mantissa = 0 then ['0', '.', '0']
    else
      let (digits, places) := placed (shortest mantissa exponent)
      layout digits places
  if negative then '-' :: body else body

end Binary64

end SchemaBindings
