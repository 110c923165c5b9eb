import SchemaBindings.Json.Wide
/-!
# Writing JSON values

A value is written in ASCII, on one line or with each item and member on a line of its own. What is
not printable ASCII is escaped in UTF-16 units. In a message, a value stands as a literal: strings
in quotes, lists between brackets, objects between braces, and the words `None`, `True` and `False`.
-/

set_option autoImplicit false
set_option relaxedAutoImplicit false

namespace SchemaBindings

open SchemaBindings.Text

namespace Json

/-- One UTF-16 unit escaped by its number. -/
def escapeUnit (unit : Nat) : List Char :=
  '\\' :: 'u' :: hexDigits 4 unit

/-- One character as it stands inside a string. -/
def escapeChar (c : Char) : List Char :=
  if c = '"' then ['\\', '"']
  else if c = '\\' then ['\\', '\\']
  else if c = '\n' then ['\\', 'n']
  else if c = '\r' then ['\\', 'r']
  else if c = '\t' then ['\\', 't']
  else if c = '\x08' then ['\\', 'b']
  else if c = '\x0c' then ['\\', 'f']
  else if 0x20 ≤ c.toNat && c.toNat ≤ 0x7e then [c]
  else if c.toNat < 0x10000 then escapeUnit c.toNat
  else
    let above := c.toNat - 0x10000
    escapeUnit (0xd800 + above / 0x400) ++ escapeUnit (0xdc00 + above % 0x400)

/-- One code point as it stands inside a string. -/
def escapePoint : CodePoint → List Char
  | .char c => escapeChar c
  | .surrogate offset => CodePoint.escapeSurrogate offset

/-- A string between its quotes. -/
def writeText (text : WideText) : List Char :=
  '"' :: (text.flatMap escapePoint ++ ['"'])

/-- An integer in decimal digits. -/
def writeInt (value : Int) : List Char :=
  let digits := Binary64.digitChars value.natAbs
  if value < 0 then '-' :: digits else digits

/-- A double-precision number. -/
def writeFloat : Binary64 → List Char
  | .finite negative mantissa exponent => Binary64.finiteText negative mantissa exponent
  | .infinite negative => (if negative then "-Infinity" else "Infinity").toList
  | .nan => "NaN".toList

/-- How items and members are laid out: on one line, or each on its own line, indented by a number
of spaces for each level. -/
inductive Layout where
  | oneLine
  | indented (spaces : Nat)
  deriving DecidableEq, Repr

namespace Layout

/-- What stands in front of the first item of a list or object at a level, and behind its last. -/
def edge (layout : Layout) (level : Nat) : List Char :=
  match layout with
  | oneLine => []
  | indented spaces => '\n' :: List.replicate (level * spaces) ' '

/-- What stands between two items at a level. -/
def between (layout : Layout) (level : Nat) : List Char :=
  match layout with
  | oneLine => [',', ' ']
  | indented spaces => ',' :: '\n' :: List.replicate (level * spaces) ' '

end Layout

end Json

namespace WideJson

open Json (Layout writeInt writeFloat writeText)

mutual

/-- A value whose items stand at the level below `level`. -/
def write (layout : Layout) (level : Nat) : WideJson → List Char
  | null => "null".toList
  | bool value => (if value then "true" else "false").toList
  | int value => writeInt value
  | float value => writeFloat value
  | str value => writeText value
  | arr [] => ['[', ']']
  | arr (item :: items) =>
    '[' :: (layout.edge (level + 1) ++ write layout (level + 1) item ++
      writeItems layout (level + 1) items ++ layout.edge level ++ [']'])
  | obj [] => ['\x7b', '\x7d']
  | obj ((key, value) :: members) =>
    '\x7b' :: (layout.edge (level + 1) ++ writeText key ++ [':', ' '] ++
      write layout (level + 1) value ++ writeMembers layout (level + 1) members ++
      layout.edge level ++ ['\x7d'])

/-- The items of a list after the first. -/
def writeItems (layout : Layout) (level : Nat) : List WideJson → List Char
  | [] => []
  | item :: items =>
    layout.between level ++ write layout level item ++ writeItems layout level items

/-- The members of an object after the first. -/
def writeMembers (layout : Layout) (level : Nat) : List (WideText × WideJson) → List Char
  | [] => []
  | (key, value) :: members =>
    layout.between level ++ writeText key ++ [':', ' '] ++ write layout level value ++
      writeMembers layout level members

end

/-- The text of a value with two spaces for each level. -/
def toIndentedText (json : WideJson) : List Char :=
  write (.indented 2) 0 json

/-! ### Literals -/

/-- A double-precision number in a message. -/
def floatLiteral : Binary64 → List Char
  | .finite negative mantissa exponent => Binary64.finiteText negative mantissa exponent
  | .infinite negative => (if negative then "-inf" else "inf").toList
  | .nan => "nan".toList

mutual

/-- A value in a message. -/
def literal : WideJson → List Char
  | null => "None".toList
  | bool value => (if value then "True" else "False").toList
  | int value => writeInt value
  | float value => floatLiteral value
  | str value => value.quoted
  | arr items => '[' :: (literalItems items ++ [']'])
  | obj members => '\x7b' :: (literalMembers members ++ ['\x7d'])

/-- The items of a list in a message. -/
def literalItems : List WideJson → List Char
  | [] => []
  | [item] => literal item
  | item :: items => literal item ++ [',', ' '] ++ literalItems items

/-- The members of an object in a message. -/
def literalMembers : List (WideText × WideJson) → List Char
  | [] => []
  | [(key, value)] => key.quoted ++ [':', ' '] ++ literal value
  | (key, value) :: members =>
    key.quoted ++ [':', ' '] ++ literal value ++ [',', ' '] ++ literalMembers members

end

end WideJson

namespace Json

/-- The text of a value without surrogates, whose items stand at the level below `level`. -/
def write (layout : Layout) (level : Nat) (json : Json) : List Char :=
  (WideJson.ofJson json).write layout level

end Json

end SchemaBindings
