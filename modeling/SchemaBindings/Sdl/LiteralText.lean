import SchemaBindings.Sdl.Document
import SchemaBindings.Text.Case
import SchemaBindings.Text.Line
import SchemaBindings.Text.Quoted
/-!
# The text of values

A value is shown in the notation of the schema language. Lists and objects take one line unless it
would be longer than `maxLineLength`; then each item takes a line of its own, unless it would be
moved to the right by more than `maxIndents` steps.
-/

set_option autoImplicit false
set_option relaxedAutoImplicit false

namespace SchemaBindings.Sdl

open SchemaBindings.Text

/-- The length from which on a list or object is broken into lines. -/
def maxLineLength : Nat := 80

/-- How many steps a line may be moved to the right. -/
def maxIndents : Nat := 100

/-! ### Strings -/

/-- One character of a string on one line. -/
def stringChar (c : Char) : List Char :=
  if c = '"' || c = '\\' then ['\\', c]
  else if c = '\x08' then ['\\', 'b']
  else if c = '\t' then ['\\', 't']
  else if c = '\n' then ['\\', 'n']
  else if c = '\x0c' then ['\\', 'f']
  else if c = '\r' then ['\\', 'r']
  else if c.toNat < 0x20 || 0x7f ≤ c.toNat && c.toNat ≤ 0x9f then
    '\\' :: 'u' :: upper (hexDigits 4 c.toNat)
  else [c]

/-- A string on one line. -/
def stringText (value : List Char) : List Char :=
  '"' :: value.flatMap stringChar ++ ['"']

/-- The text of a block with its triple quotes escaped. -/
def escapeQuotes : List Char → List Char
  | '"' :: '"' :: '"' :: rest => ['\\', '"', '"', '"'] ++ escapeQuotes rest
  | c :: rest => c :: escapeQuotes rest
  | [] => []

/-- Whether a text begins with a space or a tab. -/
def startsBlank (text : List Char) : Bool :=
  match text with
  | c :: _ => c == ' ' || c == '\t'
  | [] => false

/-- How long a block may be to stay on the line of its quotes. -/
def maxBlockLength : Nat := 70

/-- A block of text between triple quotes. Line ends are put behind the opening quotes and before
the closing ones where the text would otherwise read back differently or be hard to read. -/
def blockStringText (value : List Char) : List Char :=
  let escaped := escapeQuotes value
  let lines := bareLines escaped
  let single := lines.length == 1
  let allIndented := 1 < lines.length && lines.tail.all fun line => line.isEmpty || startsBlank line
  let endsInTriple := ['\\', '"', '"', '"'].isSuffixOf escaped
  let endsBadly := ['"'].isSuffixOf value && !endsInTriple || ['\\'].isSuffixOf value
  let spread := !single || maxBlockLength < value.length || endsBadly || allIndented || endsInTriple
  let opening := spread && !(single && startsBlank value) || allIndented
  let quotes := ['"', '"', '"']
  quotes ++ (if opening then ['\n'] else []) ++ escaped ++
    (if spread || endsBadly then ['\n'] else []) ++ quotes

/-! ### Values -/

/-- The lines of a text moved to the right. -/
def shiftLines (text : List Char) : List Char :=
  ' ' :: ' ' :: text.flatMap fun c => if c = '\n' then ['\n', ' ', ' '] else [c]

/-- Texts with a separator between them. -/
def joinTexts (separator : List Char) (texts : List (List Char)) : List Char :=
  (texts.intersperse separator).flatten

/-- Items between an opening and a closing text: on one line, with `padding` inside, if the line is
short enough. The items lie within `depth` other ones. -/
def bracketed (depth : Nat) (opening closing : Char) (padding : List Char)
    (items : List (List Char)) : List Char :=
  let line := opening :: padding ++ joinTexts [',', ' '] items ++ padding ++ [closing]
  if line.length ≤ maxLineLength then line
  else if depth < maxIndents then
    opening :: '\n' :: shiftLines (joinTexts ['\n'] items) ++ ['\n', closing]
  else opening :: ' ' :: joinTexts [' '] items ++ [' ', closing]

mutual

/-- The text of a value that lies within `depth` lists and objects. -/
def Literal.text (depth : Nat) : Literal → List Char
  | .int text | .float text => text.toList
  | .string value false => stringText value.toList
  | .string value true => blockStringText value.toList
  | .boolean true => "true".toList
  | .boolean false => "false".toList
  | .null => "null".toList
  | .enum name => name.toList
  | .variable name => '$' :: name.toList
  | .list items => bracketed depth '[' ']' [] (itemTexts (depth + 1) items)
  | .object fields => bracketed depth '\x7b' '\x7d' [' '] (fieldTexts (depth + 1) fields)

/-- The texts of several values. -/
def itemTexts (depth : Nat) : List Literal → List (List Char)
  | [] => []
  | item :: items => item.text depth :: itemTexts depth items

/-- The texts of the fields of an object. -/
def fieldTexts (depth : Nat) : List (String × Literal) → List (List Char)
  | [] => []
  | (name, value) :: fields =>
    (name.toList ++ ':' :: ' ' :: value.text depth) :: fieldTexts depth fields

end

/-- A value in a message. -/
def Literal.display (literal : Literal) : String :=
  String.ofList (literal.text 0)

end SchemaBindings.Sdl
