import SchemaBindings.Fetch.Percent
import SchemaBindings.Text.Blank
import SchemaBindings.Text.Charset
import SchemaBindings.Text.Split
/-!
# Content types

A content type is a value with parameters, with semicolons between them. A parameter may be written
in numbered parts, and a part may be percent encoded, with the name of its character set in front of
the whole. `ContentType.charset?` finds the parameter `charset`.
-/

set_option autoImplicit false
set_option relaxedAutoImplicit false

namespace SchemaBindings.Fetch.ContentType

open SchemaBindings.Text

/-! ### Quotes -/

/-- A text in which one backslash stands for each pair of them. -/
def joinBackslashes : List Char → List Char
  | '\\' :: '\\' :: rest => '\\' :: joinBackslashes rest
  | c :: rest => c :: joinBackslashes rest
  | [] => []

/-- A text in which a double quote stands for each one behind a backslash. -/
def bareQuotes : List Char → List Char
  | '\\' :: '"' :: rest => '"' :: bareQuotes rest
  | c :: rest => c :: bareQuotes rest
  | [] => []

/-- A text with a backslash before each backslash and each double quote. -/
def escape (text : List Char) : List Char :=
  text.flatMap fun c => if c == '\\' || c == '"' then ['\\', c] else [c]

/-- A text without the backslashes that protect others and double quotes. -/
def unescape (text : List Char) : List Char :=
  bareQuotes (joinBackslashes text)

/-- A value without the quotes or angle brackets around it. -/
def unquote (text : List Char) : List Char :=
  let inside := (text.drop 1).dropLast
  if text.length < 2 then text
  else if text.head? == some '"' && text.getLast? == some '"' then unescape inside
  else if text.head? == some '<' && text.getLast? == some '>' then inside
  else text

/-! ### Parameters -/

/-- The parts between semicolons outside quotes; a double quote behind a backslash does not count.
-/
def parts (quoted escaped : Bool) : List Char → List (List Char)
  | [] => [[]]
  | c :: rest =>
    if c == ';' && !quoted then [] :: parts false false rest
    else consToPart c (parts (if c == '"' && !escaped then !quoted else quoted) (c == '\\') rest)

/-- The name and the value of a parameter; without an equals sign there is no value. -/
def nameAndValue (part : List Char) : List Char × List Char :=
  match splitAtFirst? '=' part with
  | some (name, value) => (lower (trim name), trim value)
  | none => (trim part, [])

/-- A part of a value: its number, if it has one, its text, and whether the text is encoded. -/
structure Part where
  number : Option Nat
  text : List Char
  encoded : Bool
  deriving DecidableEq, Repr

/-- Whether one part comes before another or stands in its place. -/
def Part.atMost (part other : Part) : Bool :=
  let key (part : Part) : Nat := part.number.getD 0
  if key part != key other then key part < key other
  else if part.text != other.text then String.ofList part.text < String.ofList other.text
  else !part.encoded || other.encoded

/-- The name of a parameter with a part of its value: a name, an asterisk, and perhaps a number with
another asterisk behind it. A part is encoded if an asterisk ends the whole. -/
def partOf? (name value : List Char) : Option (List Char × Part) :=
  let isWordChar (c : Char) : Bool := isUpperLetter c || isLowerLetter c || isDigit c || c == '_'
  let encoded := name.getLast? == some '*'
  match splitAtFirst? '*' name with
  | none => none
  | some (word, rest) =>
    let digits := if encoded && !rest.isEmpty then rest.dropLast else rest
    if word.isEmpty || !word.all isWordChar then none
    else if rest.isEmpty then some (word, ⟨none, value, true⟩)
    else if !digits.isEmpty && digits.all isDigit then
      let number := digits.foldl (fun number c => number * 10 + (c.toNat - 0x30)) 0
      some (word, ⟨some number, value, encoded⟩)
    else none

/-- A value: a plain text, or a text that stands for bytes in a character set. -/
inductive Value where
  | plain (text : List Char)
  | extended (charset text : List Char)
  deriving DecidableEq, Repr

/-- Parts of a value of which only some have a number, and whether the first one has. -/
structure MixedParts where
  firstNumbered : Bool
  deriving DecidableEq, Repr

/-- The text about parts of which only some have a number: they cannot be put in order. -/
def MixedParts.message (fault : MixedParts) : String :=
  let (later, first) := if fault.firstNumbered then ("NoneType", "int") else ("int", "NoneType")
  "'<' not supported between instances of '" ++ later ++ "' and '" ++ first ++ "'"

/-- The percent encoded bytes of a text as the characters of their numbers. -/
def decodeBytes : List Char → List Char
  | [] => []
  | '%' :: a :: b :: rest =>
    match hexValue? a, hexValue? b with
    | some high, some low => Char.ofNat (high * 16 + low) :: decodeBytes rest
    | _, _ => '%' :: decodeBytes (a :: b :: rest)
  | c :: rest => c :: decodeBytes rest

/-- The value of parts in their order: the texts joined, and, if one of them is encoded, the
character set, a language and the text, with an apostrophe between two of them. -/
def joinPartTexts (parts : List Part) : Value :=
  let text := escape (parts.flatMap fun part =>
    if part.encoded then decodeBytes part.text else part.text)
  if parts.any Part.encoded then
    match splitAtFirst? '\'' text with
    | none => .extended [] (unescape text)
    | some (charset, rest) =>
      match splitAtFirst? '\'' rest with
      | none => .extended [] (unescape text)
      | some (_, value) => .extended charset (unescape value)
  else .plain (unescape text)

/-- The value of parts in any order. -/
def joinValue (parts : List Part) : Except MixedParts Value :=
  let numbered := parts.filter fun part => part.number.isSome
  if numbered.length != 0 && numbered.length != parts.length then
    .error ⟨(parts.head?.bind Part.number).isSome⟩
  else .ok (joinPartTexts (parts.mergeSort Part.atMost))

/-- Parts with a name, put behind those of the same name. -/
def addPart (name : List Char) (part : Part) :
    List (List Char × List Part) → List (List Char × List Part)
  | [] => [(name, [part])]
  | (other, parts) :: rest =>
    if other == name then (other, parts ++ [part]) :: rest
    else (other, parts) :: addPart name part rest

/-- The parameters of a content type, those in parts behind the others. The value in front counts as
one of them. -/
def parameters (text : List Char) : Except MixedParts (List (List Char × Value)) := do
  let all := (parts false false text).map nameAndValue
  let later := (all.drop 1).map fun (name, value) => (name, unquote value)
  let first := (all.take 1).map fun (name, value) => (name, Value.plain (unquote value))
  let whole := later.filterMap fun (name, value) =>
    if (partOf? name value).isNone then some (name, Value.plain (unescape (escape value)))
    else none
  let groups := (later.filterMap fun (name, value) => partOf? name value).foldl
    (fun groups (name, part) => addPart name part groups) []
  let joined ← groups.mapM fun (name, parts) => do return (name, ← joinValue parts)
  return first ++ whole ++ joined

/-- The text of a value: bytes in a character set are read with it, if that can be done. -/
def Value.text : Value → List Char
  | .plain text => text
  | .extended charset text =>
    let charset := if charset.isEmpty then "us-ascii".toList else charset
    let bytes := text.map fun c => c.toNat.toUInt8
    (((Charset.named? charset).bind fun charset => charset.decode? bytes).getD text)

/-- The name of the character set in a content type, in lower case, if it is in ASCII. -/
def charset? (text : List Char) : Except MixedParts (Option (List Char)) := do
  let found := (← parameters text).find? fun (name, _) => lower name == "charset".toList
  return found.bind fun (_, value) =>
    if value.text.all fun c => c.toNat < 0x80 then some (lower value.text) else none

end SchemaBindings.Fetch.ContentType
