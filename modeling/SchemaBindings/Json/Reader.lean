import SchemaBindings.Json.Basic
import SchemaBindings.Json.Fault
import SchemaBindings.Text.Quoted
import SchemaBindings.Text.Case
/-!
# Reading JSON text

A reader by recursive descent. Besides the grammar it accepts `NaN`, `Infinity` and `-Infinity` as
numbers. Each function takes the rest of the text and returns a value with what follows it, or the
first fault. The recursion is bounded by `fuel`, which `read` sets above twice the length of the
text: a nested value takes two steps and at least one character.
-/

set_option autoImplicit false
set_option relaxedAutoImplicit false

namespace SchemaBindings.Json

open SchemaBindings.Text

/-- White space between the tokens of a JSON text. -/
def isSpace (c : Char) : Bool :=
  c == ' ' || c == '\t' || c == '\n' || c == '\r'

/-- The rest of a text after white space. -/
def skipSpace (text : List Char) : List Char :=
  text.dropWhile isSpace

/-- The rest of a text after a word that must stand at its front. -/
def readWord : List Char → List Char → Except FaultAt (List Char)
  | [], text => .ok text
  | _ :: _, [] => .error ⟨.endInValue, []⟩
  | w :: word, c :: rest =>
    if w = c then readWord word rest else .error ⟨.expectedWord, c :: rest⟩

/-! ### Numbers -/

/-- The value of a list of decimal digits. -/
def digitsValue (digits : List Char) : Nat :=
  digits.foldl (fun value c => value * 10 + (c.toNat - 0x30)) 0

/-- One or more digits. -/
def readDigits (text : List Char) : Except FaultAt (List Char × List Char) :=
  match text with
  | [] => .error ⟨.endInValue, []⟩
  | c :: rest =>
    if isDigit c then .ok (c :: rest.takeWhile isDigit, rest.dropWhile isDigit)
    else .error ⟨.invalidNumber, c :: rest⟩

/-- The exponent of a number, from behind its mark. -/
def readExponent (text : List Char) : Except FaultAt (Int × List Char) :=
  match text with
  | '-' :: rest => do
    let (digits, rest) ← readDigits rest
    return (-(digitsValue digits : Int), rest)
  | '+' :: rest => do
    let (digits, rest) ← readDigits rest
    return ((digitsValue digits : Int), rest)
  | text => do
    let (digits, rest) ← readDigits text
    return ((digitsValue digits : Int), rest)

/-- The number with the given digits before and after the point and the given exponent. -/
def floatOf (negative : Bool) (whole fraction : List Char) (exponent : Int) : Json :=
  let digits := (whole ++ fraction).dropWhile (· == '0')
  .float (Binary64.ofDecimal negative (digitsValue digits) digits.length
    (exponent - fraction.length))

/-- What follows the whole part of a number: a fraction, an exponent, both, or neither. -/
def readFraction (negative : Bool) (whole text : List Char) : Except FaultAt (Json × List Char) :=
  match text with
  | '.' :: rest => do
    let (fraction, rest) ← readDigits rest
    match rest with
    | c :: after =>
      if c = 'e' || c = 'E' then
        let (exponent, rest) ← readExponent after
        return (floatOf negative whole fraction exponent, rest)
      else return (floatOf negative whole fraction 0, rest)
    | [] => return (floatOf negative whole fraction 0, rest)
  | c :: after =>
    if c = 'e' || c = 'E' then do
      let (exponent, rest) ← readExponent after
      return (floatOf negative whole [] exponent, rest)
    else
      let value : Int := digitsValue whole
      .ok (.int (if negative then -value else value), text)
  | [] =>
    let value : Int := digitsValue whole
    .ok (.int (if negative then -value else value), text)

/-- A number without its sign. A whole part that begins with zero is zero alone. -/
def readUnsigned (negative : Bool) (text : List Char) : Except FaultAt (Json × List Char) :=
  match text with
  | [] => .error ⟨.endInValue, []⟩
  | '0' :: c :: rest =>
    if isDigit c then .error ⟨.invalidNumber, c :: rest⟩
    else readFraction negative ['0'] (c :: rest)
  | 'I' :: rest => do
    let rest ← readWord "nfinity".toList rest
    return (.float (.infinite negative), rest)
  | text => do
    let (whole, rest) ← readDigits text
    readFraction negative whole rest

/-- A number. -/
def readNumber (text : List Char) : Except FaultAt (Json × List Char) :=
  match text with
  | '-' :: rest => readUnsigned true rest
  | text => readUnsigned false text

/-- The most characters of the whole part of a number, its sign among them. -/
def maxWholeLength : Nat := 4300

/-- How many characters the digits at the front of a text are. A zero in front stands alone. -/
def digitsLength : List Char → Nat
  | '0' :: _ => 1
  | text => (text.takeWhile isDigit).length

/-- How many characters the whole part of a number is, with its sign. -/
def wholeLength : List Char → Nat
  | '-' :: rest => digitsLength rest + 1
  | text => digitsLength text

/-- A number whose whole part is not too long. -/
def readBoundedNumber (text : List Char) : Except FaultAt (Json × List Char) :=
  if maxWholeLength < wholeLength text then .error ⟨.outOfRange, text.drop (maxWholeLength + 1)⟩
  else readNumber text

/-! ### Strings -/

/-- Four hexadecimal digits. The rest begins with the last of them, where a fault of the number
that they write is found. -/
def readHex4 (text : List Char) : Except FaultAt (Nat × List Char) :=
  if utf8Size (text.take 4) < 4 then .error ⟨.endInString, []⟩
  else
    match text with
    | a :: rest =>
      match hexValue? a, rest with
      | none, _ => .error ⟨.invalidEscape, text⟩
      | some _, [] => .error ⟨.endInString, []⟩
      | some x, b :: rest =>
        match hexValue? b, rest with
        | none, _ => .error ⟨.invalidEscape, b :: rest⟩
        | some _, [] => .error ⟨.endInString, []⟩
        | some y, c :: rest =>
          match hexValue? c, rest with
          | none, _ => .error ⟨.invalidEscape, c :: rest⟩
          | some _, [] => .error ⟨.endInString, []⟩
          | some z, d :: rest =>
            match hexValue? d with
            | none => .error ⟨.invalidEscape, d :: rest⟩
            | some w => .ok (((x * 16 + y) * 16 + z) * 16 + w, d :: rest)
    | [] => .error ⟨.endInString, []⟩

/-- A character escaped by its number, from behind the mark `u`: one UTF-16 unit, or two that form
a surrogate pair. -/
def readUnicodeEscape (text : List Char) : Except FaultAt (Char × List Char) := do
  let (unit, atLast) ← readHex4 text
  let rest := atLast.drop 1
  if 0xdc00 ≤ unit && unit ≤ 0xdfff then .error ⟨.loneSurrogate, atLast⟩
  else if 0xd800 ≤ unit && unit ≤ 0xdbff then
    match rest with
    | '\\' :: 'u' :: second => do
      let (low, atLast) ← readHex4 second
      if 0xdc00 ≤ low && low ≤ 0xdfff then
        return (Char.ofNat (0x10000 + (unit - 0xd800) * 0x400 + (low - 0xdc00)), atLast.drop 1)
      else .error ⟨.loneSurrogate, atLast⟩
    | '\\' :: [] => .error ⟨.endInString, []⟩
    | '\\' :: other => .error ⟨.unfinishedSurrogate, other⟩
    | [] => .error ⟨.endInString, []⟩
    | other => .error ⟨.unfinishedSurrogate, other⟩
  else return (Char.ofNat unit, rest)

/-- The character that a one-letter escape stands for. -/
def escaped? (c : Char) : Option Char :=
  match c with
  | '"' => some '"'
  | '\\' => some '\\'
  | '/' => some '/'
  | 'b' => some '\x08'
  | 'f' => some '\x0c'
  | 'n' => some '\n'
  | 'r' => some '\r'
  | 't' => some '\t'
  | _ => none

/-- The characters of a string, from behind its opening quote. -/
def readString : (fuel : Nat) → List Char → Except FaultAt (List Char × List Char)
  | 0, text => .error ⟨.endInString, text⟩
  | _ + 1, [] => .error ⟨.endInString, []⟩
  | fuel + 1, c :: rest =>
    if c = '"' then .ok ([], rest)
    else if c = '\\' then
      match rest with
      | [] => .error ⟨.endInString, []⟩
      | 'u' :: after => do
        let (c, rest) ← readUnicodeEscape after
        let (text, rest) ← readString fuel rest
        return (c :: text, rest)
      | e :: after =>
        match escaped? e with
        | some c => do
          let (text, rest) ← readString fuel after
          return (c :: text, rest)
        | none => .error ⟨.invalidEscape, rest⟩
    else if c.toNat < 0x20 then .error ⟨.controlCharacter, c :: rest⟩
    else do
      let (text, rest) ← readString fuel rest
      return (c :: text, rest)

/-! ### Values -/

/-- How deep arrays and objects may still nest; `none` sets no bound. -/
abbrev Depth : Type := Option Nat

/-- One level deeper, if that is allowed. -/
def Depth.enter : Depth → Option Depth
  | none => some none
  | some 0 => none
  | some (depth + 1) => some (some depth)

mutual

/-- A value that begins at the front of the text. An array or object with nothing in it takes no
depth. -/
def readValue (fuel : Nat) (depth : Depth) (text : List Char) : Except FaultAt (Json × List Char) :=
  match fuel, text with
  | 0, text => .error ⟨.expectedValue, text⟩
  | _ + 1, [] => .error ⟨.endInValue, []⟩
  | fuel + 1, c :: rest =>
    if c = 'n' then do return (.null, ← readWord "ull".toList rest)
    else if c = 't' then do return (.bool true, ← readWord "rue".toList rest)
    else if c = 'f' then do return (.bool false, ← readWord "alse".toList rest)
    else if c = 'N' then do return (.float .nan, ← readWord "aN".toList rest)
    else if c = '"' then do
      let (text, rest) ← readString fuel rest
      return (.str (String.ofList text), rest)
    else if c = '[' then
      match skipSpace rest with
      | [] => .error ⟨.endInList, []⟩
      | ']' :: rest => .ok (.arr [], rest)
      | first =>
        match Depth.enter depth with
        | none => .error ⟨.tooDeep, first⟩
        | some depth => do
          let (items, rest) ← readItems fuel depth first
          return (.arr items, rest)
    else if c = '\x7b' then
      match skipSpace rest with
      | [] => .error ⟨.endInObject, []⟩
      | '\x7d' :: rest => .ok (.obj [], rest)
      | '"' :: first => do
        let (key, value) ← readKey fuel first
        match Depth.enter depth with
        | none => .error ⟨.tooDeep, value⟩
        | some depth => do
          let (members, rest) ← readMembers fuel depth key value
          return (.object members, rest)
      | other => .error ⟨.keyNotString, other⟩
    else if isDigit c || c = '-' || c = 'I' then readBoundedNumber (c :: rest)
    else .error ⟨.expectedValue, c :: rest⟩

/-- The items of an array, of which the first begins at the front of the text, and its end. -/
def readItems (fuel : Nat) (depth : Depth) (text : List Char) :
    Except FaultAt (List Json × List Char) :=
  match fuel with
  | 0 => .error ⟨.expectedValue, text⟩
  | fuel + 1 => do
    let (item, rest) ← readValue fuel depth text
    match skipSpace rest with
    | [] => .error ⟨.endInList, []⟩
    | ']' :: rest => return ([item], rest)
    | ',' :: rest =>
      match skipSpace rest with
      | [] => .error ⟨.endInValue, []⟩
      | ']' :: rest => .error ⟨.trailingComma, ']' :: rest⟩
      | next => do
        let (items, rest) ← readItems fuel depth next
        return (item :: items, rest)
    | other => .error ⟨.expectedListEnd, other⟩

/-- The members of an object after the key of the first, whose value begins at the front of the
text, and the object's end. -/
def readMembers (fuel : Nat) (depth : Depth) (key : String) (text : List Char) :
    Except FaultAt (List (String × Json) × List Char) :=
  match fuel with
  | 0 => .error ⟨.expectedValue, text⟩
  | fuel + 1 => do
    let (value, rest) ← readValue fuel depth text
    match skipSpace rest with
    | [] => .error ⟨.endInObject, []⟩
    | '\x7d' :: rest => return ([(key, value)], rest)
    | ',' :: rest =>
      match skipSpace rest with
      | [] => .error ⟨.endInValue, []⟩
      | '\x7d' :: rest => .error ⟨.trailingComma, '\x7d' :: rest⟩
      | '"' :: next => do
        let (nextKey, next) ← readKey fuel next
        let (members, rest) ← readMembers fuel depth nextKey next
        return ((key, value) :: members, rest)
      | other => .error ⟨.keyNotString, other⟩
    | other => .error ⟨.expectedObjectEnd, other⟩

/-- A key, from behind its opening quote, and the colon after it; the rest begins with the value. -/
def readKey (fuel : Nat) (text : List Char) : Except FaultAt (String × List Char) := do
  let (key, rest) ← readString fuel text
  match skipSpace rest with
  | [] => .error ⟨.endInObject, []⟩
  | ':' :: rest =>
    match skipSpace rest with
    | [] => .error ⟨.endInValue, []⟩
    | value => return (String.ofList key, value)
  | other => .error ⟨.expectedColon, other⟩

end

/-- Reads a JSON text: one value, with nothing but white space around it. -/
def read (depth : Depth) (text : List Char) : Except FaultAt Json :=
  match skipSpace text with
  | [] => .error ⟨.endInValue, []⟩
  | start => do
    let (value, rest) ← readValue (2 * text.length + 2) depth start
    match skipSpace rest with
    | [] => return value
    | other => .error ⟨.trailingCharacters, other⟩

end SchemaBindings.Json
