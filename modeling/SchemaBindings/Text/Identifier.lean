import SchemaBindings.Text.CodeRange
import SchemaBindings.Text.Case
import SchemaBindings.Text.IdentifierTable
/-!
# Identifiers of the generated language

A name in a generated module is an identifier: a letter or underscore followed by letters, digits
and underscores, with the Unicode properties `XID_Start` and `XID_Continue` beyond ASCII. The
keywords of the language are identifiers in form and still no names.
-/

set_option autoImplicit false
set_option relaxedAutoImplicit false

namespace SchemaBindings.Text

/-- Characters that may begin an identifier. -/
def isIdentifierStart (c : Char) : Bool :=
  if c.toNat < 0x80 then isUpperLetter c || isLowerLetter c || c == '_'
  else inRanges identifierStartRanges c.toNat

/-- Characters that may continue an identifier. -/
def isIdentifierContinue (c : Char) : Bool :=
  if c.toNat < 0x80 then isUpperLetter c || isLowerLetter c || isDigit c || c == '_'
  else inRanges identifierContinueRanges c.toNat

/-- Whether a text has the form of an identifier. -/
def isIdentifier : List Char → Bool
  | [] => false
  | c :: rest => isIdentifierStart c && rest.all isIdentifierContinue

/-- The words that the generated language reserves. -/
def keywords : List String :=
  ["False", "None", "True", "and", "as", "assert", "async", "await", "break", "class", "continue",
   "def", "del", "elif", "else", "except", "finally", "for", "from", "global", "if", "import",
   "in", "is", "lambda", "nonlocal", "not", "or", "pass", "raise", "return", "try", "while",
   "with", "yield"]

/-- Whether a text is a reserved word. -/
def isKeyword (text : List Char) : Bool :=
  keywords.any fun word => word.toList == text

/-- Whether a text may stand as a name: an identifier that is not reserved. -/
def isName (text : List Char) : Bool :=
  isIdentifier text && !isKeyword text

end SchemaBindings.Text
