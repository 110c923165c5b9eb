import SchemaBindings.Text.Encoding
import SchemaBindings.Text.Quoted
/-!
# Code points

A text from outside may hold single surrogates, which are code points but no characters. A
`WideText` has room for them, and the readers here pass them on: a surrogate may stand in UTF-8 like
any code point of three bytes, and in units of two and four bytes without a partner.
-/

set_option autoImplicit false
set_option relaxedAutoImplicit false

namespace SchemaBindings.Text

/-- A code point: a character or a surrogate, which is counted from the first one. -/
inductive CodePoint where
  | char (c : Char)
  | surrogate (offset : Fin 0x800)
  deriving DecidableEq, Repr

/-- A text in which surrogates may stand. -/
abbrev WideText : Type := List CodePoint

/-- A text without surrogates as one in which they may stand. -/
def wide (text : List Char) : WideText :=
  text.map .char

namespace CodePoint

theorem offset_lt {number : Nat} (hnumber : 0xd800 ≤ number ∧ number < 0xe000) :
    number - 0xd800 < 0x800 := by
  omega

/-- The code point with a given number, unless it is beyond the last one. -/
def ofNumber? (number : Nat) : Option CodePoint :=
  match charOfNumber? number with
  | some c => some (char c)
  | none =>
    if h : 0xd800 ≤ number ∧ number < 0xe000 then some (surrogate ⟨number - 0xd800, offset_lt h⟩)
    else none

/-- The character that a code point is, if it is one. -/
def char? : CodePoint → Option Char
  | char c => some c
  | surrogate _ => none

/-- A surrogate by its number: four hexadecimal digits. -/
def escapeSurrogate (offset : Fin 0x800) : List Char :=
  '\\' :: 'u' :: hexDigits 4 (0xd800 + offset)

/-- One code point as it stands between the quotes `quote`. -/
def quote (quote : Char) : CodePoint → List Char
  | char c => quoteChar quote c
  | surrogate offset => escapeSurrogate offset

/-- One code point as it is printed. -/
def print : CodePoint → List Char
  | char c => [c]
  | surrogate offset => escapeSurrogate offset

end CodePoint

namespace WideText

/-- The literal of a text. -/
def quoted (text : WideText) : List Char :=
  let quote := quoteFor (text.filterMap CodePoint.char?)
  quote :: (text.flatMap (CodePoint.quote quote) ++ [quote])

/-- A text as it is printed: a surrogate by its number. -/
def printed (text : WideText) : String :=
  String.ofList (text.flatMap CodePoint.print)

/-! ### Reading -/

/-- The surrogate that the front of a byte sequence writes in three bytes. -/
def surrogateFront? (first : UInt8) : List UInt8 → Option CodePoint
  | second :: third :: _ =>
    let b := second.toNat
    let c := third.toNat
    if first = 0xed && 0xa0 ≤ b && isContinuation b && isContinuation c then
      CodePoint.ofNumber? (0xd000 + (b - 0x80) * 0x40 + (c - 0x80))
    else none
  | _ => none

/-- The text that bytes write in UTF-8, in which surrogates may stand. -/
def ofUtf8? : List UInt8 → Option WideText
  | [] => some []
  | first :: rest =>
    match utf8Front first rest with
    | .char c size => (ofUtf8? (rest.drop (size - 1))).map (.char c :: ·)
    | .bad _ _ =>
      match surrogateFront? first rest with
      | some point => (ofUtf8? (rest.drop 2)).map (point :: ·)
      | none => none
termination_by bytes => bytes.length
decreasing_by all_goals simp only [List.length_drop, List.length_cons]; omega

/-- The numbers of the code points in units of two bytes: two units that form a surrogate pair write
one number. -/
def joinPairs : List Nat → List Nat
  | high :: low :: rest =>
    if isHighSurrogate high && isLowSurrogate low then
      (0x10000 + (high - 0xd800) * 0x400 + (low - 0xdc00)) :: joinPairs rest
    else high :: joinPairs (low :: rest)
  | units => units

/-- The text that bytes write in units of two bytes, in which surrogates may stand. -/
def ofUtf16? (order : ByteOrder) (bytes : List UInt8) : Option WideText := do
  let units ← (units16 order bytes).mapM id
  (joinPairs units).mapM CodePoint.ofNumber?

/-- The text that bytes write in units of four bytes, in which surrogates may stand. -/
def ofUtf32? (order : ByteOrder) (bytes : List UInt8) : Option WideText := do
  let units ← (units32 order bytes).mapM id
  units.mapM CodePoint.ofNumber?

end WideText

end SchemaBindings.Text
