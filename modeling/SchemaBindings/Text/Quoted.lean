import SchemaBindings.Text.CodeRange
import SchemaBindings.Text.PrintableTable
/-!
# Quoted literals

A text is written as a literal between single quotes, or between double quotes when it holds a
single quote and no double one. A backslash stands before the quote in use, before a backslash and
in the short forms of tab, line feed and carriage return; a code point that is not printable is
written in hexadecimal, in the shortest of the three widths that hold it. `readLiteral` reads such a
literal back.
-/

set_option autoImplicit false
set_option relaxedAutoImplicit false

namespace SchemaBindings.Text

/-- Code points that a literal shows as themselves. -/
def isPrintable (c : Char) : Bool :=
  let code := c.toNat
  if code < 0x80 then 0x20 ≤ code && code ≤ 0x7e else inRanges printableRanges code

/-- A hexadecimal digit, in lower case. -/
def hexDigit (value : Nat) : Char :=
  if value < 10 then Char.ofNat (0x30 + value) else Char.ofNat (0x61 + (value - 10))

/-- The last `width` hexadecimal digits of a number. -/
def hexDigits : (width : Nat) → Nat → List Char
  | 0, _ => []
  | width + 1, value => hexDigits width (value / 16) ++ [hexDigit (value % 16)]

/-- One character as it stands between the quotes `quote`. -/
def quoteChar (quote c : Char) : List Char :=
  if c = quote || c = '\\' then ['\\', c]
  else if c = '\t' then ['\\', 't']
  else if c = '\n' then ['\\', 'n']
  else if c = '\r' then ['\\', 'r']
  else if isPrintable c then [c]
  else if c.toNat ≤ 0xff then '\\' :: 'x' :: hexDigits 2 c.toNat
  else if c.toNat ≤ 0xffff then '\\' :: 'u' :: hexDigits 4 c.toNat
  else '\\' :: 'U' :: hexDigits 8 c.toNat

/-- The quote that a text is written with. -/
def quoteFor (text : List Char) : Char :=
  if text.contains '\'' && !text.contains '"' then '"' else '\''

/-- The literal of a text. -/
def quoted (text : List Char) : List Char :=
  let quote := quoteFor text
  quote :: (text.flatMap (quoteChar quote) ++ [quote])

/-- The literal of a string. -/
def quotedString (text : String) : String :=
  String.ofList (quoted text.toList)

/-- The value of a hexadecimal digit, in either case. -/
def hexValue? (c : Char) : Option Nat :=
  if '0' ≤ c && c ≤ '9' then some (c.toNat - 0x30)
  else if 'a' ≤ c && c ≤ 'f' then some (c.toNat - 0x61 + 10)
  else if 'A' ≤ c && c ≤ 'F' then some (c.toNat - 0x41 + 10)
  else none

/-- The number written by a list of hexadecimal digits. -/
def readHex (digits : List Char) : Option Nat :=
  digits.foldlM (fun value c => (hexValue? c).map (value * 16 + ·)) 0

/-- The character with a number written in hexadecimal digits. -/
def escapedChar? (digits : List Char) : Option Char := do
  let code ← readHex digits
  if h : code.isValidChar then some (Char.ofNatAux code h) else none

/-- The characters of a literal's inside up to its closing quote, which must end the text. No line
end stands in a literal as itself. -/
def readQuoted (quote : Char) : List Char → Option (List Char)
  | [] => none
  | '\\' :: 'x' :: a :: b :: rest => do
    return (← escapedChar? [a, b]) :: (← readQuoted quote rest)
  | '\\' :: 'u' :: a :: b :: c :: d :: rest => do
    return (← escapedChar? [a, b, c, d]) :: (← readQuoted quote rest)
  | '\\' :: 'U' :: a :: b :: c :: d :: e :: f :: g :: h :: rest => do
    return (← escapedChar? [a, b, c, d, e, f, g, h]) :: (← readQuoted quote rest)
  | '\\' :: 'n' :: rest => do return '\n' :: (← readQuoted quote rest)
  | '\\' :: 'r' :: rest => do return '\r' :: (← readQuoted quote rest)
  | '\\' :: 't' :: rest => do return '\t' :: (← readQuoted quote rest)
  | '\\' :: '\\' :: rest => do return '\\' :: (← readQuoted quote rest)
  | '\\' :: '\'' :: rest => do return '\'' :: (← readQuoted quote rest)
  | '\\' :: '"' :: rest => do return '"' :: (← readQuoted quote rest)
  | '\\' :: _ => none
  | c :: rest =>
    if c = quote then (if rest.isEmpty then some [] else none)
    else if c = '\n' || c = '\r' then none
    else do return c :: (← readQuoted quote rest)

/-- The text that a quoted literal denotes. -/
def readLiteral : List Char → Option (List Char)
  | '\'' :: rest => readQuoted '\'' rest
  | '"' :: rest => readQuoted '"' rest
  | _ => none

end SchemaBindings.Text
