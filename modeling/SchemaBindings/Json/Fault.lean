import SchemaBindings.Text.Utf8
/-!
# Faults in JSON text

A fault is found at some place of a text, kept as the rest of the text from there on. For a message
the place becomes a line, from 1, and a column, in bytes of UTF-8 within the line.
-/

set_option autoImplicit false
set_option relaxedAutoImplicit false

namespace SchemaBindings.Json

/-- What is wrong with a JSON text. -/
inductive Fault where
  | endInValue
  | endInString
  | endInList
  | endInObject
  | expectedValue
  | expectedWord
  | expectedColon
  | expectedListEnd
  | expectedObjectEnd
  | keyNotString
  | trailingComma
  | trailingCharacters
  | invalidNumber
  | invalidEscape
  | controlCharacter
  | loneSurrogate
  | unfinishedSurrogate
  | tooDeep
  | outOfRange
  deriving DecidableEq, Repr

/-- The wording of a fault. -/
def Fault.message : Fault → String
  | endInValue => "EOF while parsing a value"
  | endInString => "EOF while parsing a string"
  | endInList => "EOF while parsing a list"
  | endInObject => "EOF while parsing an object"
  | expectedValue => "expected value"
  | expectedWord => "expected ident"
  | expectedColon => "expected \x60:\x60"
  | expectedListEnd => "expected \x60,\x60 or \x60]\x60"
  | expectedObjectEnd => "expected \x60,\x60 or \x60\x7d\x60"
  | keyNotString => "key must be a string"
  | trailingComma => "trailing comma"
  | trailingCharacters => "trailing characters"
  | invalidNumber => "invalid number"
  | invalidEscape => "invalid escape"
  | controlCharacter => "control character (\\u0000-\\u001F) found while parsing a string"
  | loneSurrogate => "lone leading surrogate in hex escape"
  | unfinishedSurrogate => "unexpected end of hex escape"
  | tooDeep => "recursion limit exceeded"
  | outOfRange => "number out of range"

/-- A fault with the rest of the text from the place where it was found. -/
structure FaultAt where
  fault : Fault
  rest : List Char
  deriving DecidableEq, Repr

/-- A line and a column. -/
structure Place where
  line : Nat
  column : Nat
  deriving DecidableEq, Repr

/-- The place behind a text, given the place it starts from: a line feed opens a line. -/
def Place.after (place : Place) (text : List Char) : Place :=
  text.foldl (fun place c =>
    if c = '\n' then ⟨place.line + 1, 0⟩
    else ⟨place.line, place.column + (Text.utf8Char c).length⟩) place

/-- The place of a fault in a text. It is named by the number of bytes up to and including the
first byte at fault; a line feed at fault therefore counts as column 0 of the next line. -/
def FaultAt.place (text : List Char) (fault : FaultAt) : Place :=
  let before := Place.after ⟨1, 0⟩ (text.take (text.length - fault.rest.length))
  match fault.rest with
  | [] => before
  | '\n' :: _ => ⟨before.line + 1, 0⟩
  | _ :: _ => ⟨before.line, before.column + 1⟩

/-- The message about a fault in a text. -/
def FaultAt.message (text : List Char) (fault : FaultAt) : String :=
  let place := fault.place text
  fault.fault.message ++ " at line " ++ toString place.line ++ " column " ++
    toString place.column

end SchemaBindings.Json
