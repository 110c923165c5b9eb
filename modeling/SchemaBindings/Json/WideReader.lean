import SchemaBindings.Json.Reader
import SchemaBindings.Json.Wide
/-!
# JSON from outside

The bytes of a JSON text show their encoding: by a byte order mark, or by the zero bytes among the
first, since the text begins with ASCII characters. Surrogates may stand in the text and may be
escaped. `WideJson.ofBytes?` gives the value in the text, or nothing if it is none: a value may nest
as deep as it likes, but an integer may not have too many digits.
-/

set_option autoImplicit false
set_option relaxedAutoImplicit false

namespace SchemaBindings.WideJson

open SchemaBindings.Text
open SchemaBindings.Json (digitsLength escaped? isSpace)

/-! ### Bytes -/

/-- The byte order marks, each with the reader of the bytes behind it. A mark stands before those
that begin like it. -/
def byteOrderMarks : List (List UInt8 × (List UInt8 → Option WideText)) :=
  [([0x00, 0x00, 0xfe, 0xff], WideText.ofUtf32? .big),
    ([0xff, 0xfe, 0x00, 0x00], WideText.ofUtf32? .little),
    ([0xfe, 0xff], WideText.ofUtf16? .big), ([0xff, 0xfe], WideText.ofUtf16? .little),
    ([0xef, 0xbb, 0xbf], WideText.ofUtf8?)]

/-- The text that some bytes without a byte order mark write, in the encoding that the zero bytes
among the first four show, or those among only two. -/
def unmarkedText? (bytes : List UInt8) : Option WideText :=
  match bytes with
  | a :: b :: c :: d :: _ =>
    if a = 0 then
      if b = 0 then WideText.ofUtf32? .big bytes else WideText.ofUtf16? .big bytes
    else if b = 0 then
      if c = 0 && d = 0 then WideText.ofUtf32? .little bytes else WideText.ofUtf16? .little bytes
    else WideText.ofUtf8? bytes
  | [a, b] =>
    if a = 0 then WideText.ofUtf16? .big bytes
    else if b = 0 then WideText.ofUtf16? .little bytes
    else WideText.ofUtf8? bytes
  | _ => WideText.ofUtf8? bytes

/-- The text that some bytes write in the encoding that the first of them show. -/
def textOf? (bytes : List UInt8) : Option WideText :=
  match byteOrderMarks.findSome? fun (mark, read) => (mark.isPrefixOf? bytes).map read with
  | some text => text
  | none => unmarkedText? bytes

/-! ### Strings -/

/-- Four hexadecimal digits. -/
def readHex4? : WideText → Option (Nat × WideText)
  | .char a :: .char b :: .char c :: .char d :: rest => do
    let x ← hexValue? a
    let y ← hexValue? b
    let z ← hexValue? c
    let w ← hexValue? d
    return (((x * 16 + y) * 16 + z) * 16 + w, rest)
  | _ => none

/-- A code point escaped by its number, from behind the mark `u`: one UTF-16 unit, or two that form
a surrogate pair. -/
def readUnicodeEscape? (text : WideText) : Option (CodePoint × WideText) := do
  let (unit, rest) ← readHex4? text
  match rest with
  | .char '\\' :: .char 'u' :: second =>
    if isHighSurrogate unit then
      let (low, behind) ← readHex4? second
      if isLowSurrogate low then
        return (.char (Char.ofNat (0x10000 + (unit - 0xd800) * 0x400 + (low - 0xdc00))), behind)
      else return (← CodePoint.ofNumber? unit, rest)
    else return (← CodePoint.ofNumber? unit, rest)
  | _ => return (← CodePoint.ofNumber? unit, rest)

/-- The text of a string, from behind its opening quote. -/
def readString? : (fuel : Nat) → WideText → Option (WideText × WideText)
  | 0, _ => none
  | _ + 1, [] => none
  | fuel + 1, .surrogate offset :: rest => do
    let (text, rest) ← readString? fuel rest
    return (.surrogate offset :: text, rest)
  | fuel + 1, .char c :: rest =>
    if c = '"' then some ([], rest)
    else if c = '\\' then
      match rest with
      | .char 'u' :: after => do
        let (point, rest) ← readUnicodeEscape? after
        let (text, rest) ← readString? fuel rest
        return (point :: text, rest)
      | .char e :: after => do
        let c ← escaped? e
        let (text, rest) ← readString? fuel after
        return (.char c :: text, rest)
      | _ => none
    else if c.toNat < 0x20 then none
    else do
      let (text, rest) ← readString? fuel rest
      return (.char c :: text, rest)

/-! ### Numbers -/

/-- The most digits of an integer. -/
def maxDigits : Nat := 4300

/-- How many digits the whole part of a number has. -/
def wholeDigits : List Char → Nat
  | '-' :: rest => digitsLength rest
  | text => digitsLength text

/-- The characters of a text before the first surrogate. -/
def plainFront : WideText → List Char
  | .char c :: rest => c :: plainFront rest
  | _ => []

/-- A number. -/
def readNumber? (text : WideText) : Option (WideJson × WideText) :=
  let front := plainFront text
  let behind (rest : List Char) : WideText := wide rest ++ text.drop front.length
  match Json.readNumber front with
  | .error _ => none
  | .ok (.int value, rest) =>
    if maxDigits < wholeDigits front then none else some (.int value, behind rest)
  | .ok (value, rest) => some (ofJson value, behind rest)

/-! ### Values -/

/-- The rest of a text after white space. -/
def skipSpace : WideText → WideText
  | .char c :: rest => if isSpace c then skipSpace rest else .char c :: rest
  | text => text

/-- The rest of a text after a word that must stand at its front. -/
def readWord? (word : String) (text : WideText) : Option WideText :=
  (wide word.toList).isPrefixOf? text

mutual

/-- A value that begins at the front of the text. -/
def readValue? (fuel : Nat) (text : WideText) : Option (WideJson × WideText) :=
  match fuel, text with
  | fuel + 1, .char c :: rest =>
    if c = 'n' then do return (.null, ← readWord? "ull" rest)
    else if c = 't' then do return (.bool true, ← readWord? "rue" rest)
    else if c = 'f' then do return (.bool false, ← readWord? "alse" rest)
    else if c = 'N' then do return (.float .nan, ← readWord? "aN" rest)
    else if c = '"' then do
      let (text, rest) ← readString? fuel rest
      return (.str text, rest)
    else if c = '[' then
      match skipSpace rest with
      | .char ']' :: rest => some (.arr [], rest)
      | first => do
        let (items, rest) ← readItems? fuel first
        return (.arr items, rest)
    else if c = '\x7b' then
      match skipSpace rest with
      | .char '\x7d' :: rest => some (.obj [], rest)
      | .char '"' :: first => do
        let (key, value) ← readKey? fuel first
        let (members, rest) ← readMembers? fuel key value
        return (.object members, rest)
      | _ => none
    else readNumber? (.char c :: rest)
  | _, _ => none

/-- The items of an array, of which the first begins at the front of the text, and its end. -/
def readItems? (fuel : Nat) (text : WideText) : Option (List WideJson × WideText) :=
  match fuel with
  | 0 => none
  | fuel + 1 => do
    let (item, rest) ← readValue? fuel text
    match skipSpace rest with
    | .char ']' :: rest => return ([item], rest)
    | .char ',' :: rest => do
      let (items, rest) ← readItems? fuel (skipSpace rest)
      return (item :: items, rest)
    | _ => none

/-- The members of an object after the key of the first, whose value begins at the front of the
text, and the object's end. -/
def readMembers? (fuel : Nat) (key : WideText) (text : WideText) :
    Option (List (WideText × WideJson) × WideText) :=
  match fuel with
  | 0 => none
  | fuel + 1 => do
    let (value, rest) ← readValue? fuel text
    match skipSpace rest with
    | .char '\x7d' :: rest => return ([(key, value)], rest)
    | .char ',' :: rest =>
      match skipSpace rest with
      | .char '"' :: next => do
        let (nextKey, next) ← readKey? fuel next
        let (members, rest) ← readMembers? fuel nextKey next
        return ((key, value) :: members, rest)
      | _ => none
    | _ => none

/-- A key, from behind its opening quote, and the colon after it; the rest begins with the value. -/
def readKey? (fuel : Nat) (text : WideText) : Option (WideText × WideText) := do
  let (key, rest) ← readString? fuel text
  match skipSpace rest with
  | .char ':' :: rest => return (key, skipSpace rest)
  | _ => none

end

/-- The value in a text, if there is one with nothing but white space around it. The fuel is above
twice the length of the text: a nested value takes two steps and at least one character. -/
def read? (text : WideText) : Option WideJson := do
  let (value, rest) ← readValue? (2 * text.length + 2) (skipSpace text)
  if skipSpace rest = [] then some value else none

/-- The value that some bytes write, if they are a JSON text. -/
def ofBytes? (bytes : List UInt8) : Option WideJson := do
  read? (← textOf? bytes)

end SchemaBindings.WideJson
