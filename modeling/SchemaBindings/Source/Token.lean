import SchemaBindings.Source.Interpolation
import SchemaBindings.Text.Identifier
import SchemaBindings.Text.Line
import SchemaBindings.Text.Quoted
/-!
# Tokens of a generated module

The text of a module as tokens: names, keywords, numbers, strings and operators, the ends of logical
lines, and the changes of indentation. Inside brackets line ends do not count; blank lines and lines
with a comment only leave no token at all.
-/

set_option autoImplicit false
set_option relaxedAutoImplicit false

namespace SchemaBindings.Source

open SchemaBindings.Text

/-- A token. A number says whether it is imaginary; a string says whether it is made of bytes, and
holds the texts of the expressions in its fields. -/
inductive Token where
  | name (text : List Char)
  | keyword (word : String)
  | number (imaginary : Bool)
  | string (bytes : Bool) (fields : List (List Char))
  | op (text : String)
  | newline
  | indent
  | dedent
  deriving DecidableEq, Repr

/-! ### Names, numbers and strings -/

/-- Characters that a word is made of before it is judged to be an identifier. -/
def isWordChar (c : Char) : Bool :=
  isLowerLetter c || isUpperLetter c || isDigit c || c == '_' || 0x80 ≤ c.toNat

/-- The token of a word: a keyword, or a name if it is an identifier. -/
def wordToken? (word : List Char) : Option Token :=
  if isKeyword word then some (.keyword (String.ofList word))
  else if isIdentifier word then some (.name word)
  else none

/-- The marks that may stand before the opening quote of a string. -/
def stringMarks : List String :=
  ["r", "u", "b", "f", "br", "rb", "fr", "rf"]

/-- A word in lower case, if it is a mark of strings. -/
def stringMark? (word : List Char) : Option String :=
  let mark := String.ofList (word.map fun c =>
    if isUpperLetter c then Char.ofNat (c.toNat + 32) else c)
  if stringMarks.contains mark then some mark else none

/-- The text of a string and what follows its closing quote, which stands on the same line. -/
def untilQuote (quote : Char) : List Char → Option (List Char × List Char)
  | [] => none
  | '\\' :: c :: rest =>
    (untilQuote quote rest).map fun (inside, after) => ('\\' :: c :: inside, after)
  | c :: rest =>
    if c = quote then some ([], rest)
    else if c = '\n' then none
    else (untilQuote quote rest).map fun (inside, after) => (c :: inside, after)

/-- The text of a long string and what follows its three closing quotes. -/
def untilLongQuote (quote : Char) : List Char → Option (List Char × List Char)
  | [] => none
  | '\\' :: c :: rest =>
    (untilLongQuote quote rest).map fun (inside, after) => ('\\' :: c :: inside, after)
  | c :: rest =>
    if c = quote && isTripled quote rest then some ([], rest.drop 2)
    else (untilLongQuote quote rest).map fun (inside, after) => (c :: inside, after)

/-- Whether a text begins with something between braces that may be the name of a character:
letters, digits, blanks and hyphens. -/
def beginsWithName : List Char → Bool
  | '\x7b' :: rest =>
    let name := rest.takeWhile (· != '\x7d')
    !name.isEmpty && name.length < rest.length && name.all fun c =>
      isLowerLetter c || isUpperLetter c || isDigit c || c == ' ' || c == '-'
  | _ => false

/-- Whether the escapes in the text of a string are complete. -/
def escapesComplete (bytes : Bool) : List Char → Bool
  | [] => true
  | '\\' :: 'N' :: rest => (bytes || beginsWithName rest) && escapesComplete bytes rest
  | '\\' :: 'x' :: rest =>
    (rest.take 2).length = 2 && (readHex (rest.take 2)).isSome && escapesComplete bytes rest
  | '\\' :: 'u' :: rest =>
    (bytes || ((rest.take 4).length = 4 && (readHex (rest.take 4)).isSome)) &&
      escapesComplete bytes rest
  | '\\' :: 'U' :: rest =>
    (bytes || ((rest.take 8).length = 8 &&
      match readHex (rest.take 8) with
      | some code => code ≤ 0x10ffff
      | none => false)) && escapesComplete bytes rest
  | '\\' :: _ :: rest => escapesComplete bytes rest
  | _ :: rest => escapesComplete bytes rest

/-- The token of a string with a given mark, if its text is acceptable. -/
def stringToken? (mark : String) (inside : List Char) : Option Token := do
  let raw := mark.toList.contains 'r'
  let bytes := mark.toList.contains 'b'
  if bytes && inside.any fun c => 0x80 ≤ c.toNat then failure
  if !raw && !escapesComplete bytes inside then failure
  let fields ← if mark.toList.contains 'f' then interpolated? raw inside else some []
  return .string bytes fields

/-- The text of a string and what follows it, from behind its opening quote. -/
def stringText? (quote : Char) (rest : List Char) : Option (List Char × List Char) :=
  match rest with
  | d :: e :: inside =>
    if d = quote && e = quote then untilLongQuote quote inside else untilQuote quote rest
  | _ => untilQuote quote rest

/-- The token of a string and what follows it, from behind its opening quote. -/
def string? (mark : String) (quote : Char) (rest : List Char) : Option (Token × List Char) :=
  (stringText? quote rest).bind fun (inside, after) =>
    (stringToken? mark inside).map fun token => (token, after)

/-- What follows digits of a kind with single underscores between them. `owed` says that a digit
has to come next. -/
def digitsEnd? (isDigitOfKind : Char → Bool) : (owed : Bool) → List Char → Option (List Char)
  | owed, [] => if owed then none else some []
  | owed, c :: rest =>
    if isDigitOfKind c then digitsEnd? isDigitOfKind false rest
    else if owed then none
    else if c = '_' then digitsEnd? isDigitOfKind true rest
    else some (c :: rest)

/-- What follows at least one digit of a kind. -/
def afterDigits? (isDigitOfKind : Char → Bool) (text : List Char) : Option (List Char) :=
  digitsEnd? isDigitOfKind true text

/-- Whether a character is the mark of an exponent. -/
def isExponentMark (c : Char) : Bool :=
  c == 'e' || c == 'E'

/-- What follows an exponent, if there is one at the front of a text. A mark without a sign or digit
behind it is not an exponent. -/
def afterExponent? (text : List Char) : Option (List Char) :=
  match text with
  | c :: rest =>
    if isExponentMark c then
      match rest with
      | '+' :: digits => afterDigits? isDigit digits
      | '-' :: digits => afterDigits? isDigit digits
      | d :: _ => if isDigit d then afterDigits? isDigit rest else some text
      | [] => some text
    else some text
  | [] => some []

/-- Whether a character is the mark of an imaginary number. -/
def isImaginaryMark (c : Char) : Bool :=
  c == 'j' || c == 'J'

/-- Whether the mark of an imaginary number comes next, and what follows it or would follow it. -/
def imaginary (text : List Char) : Bool × List Char :=
  match text with
  | c :: rest => if isImaginaryMark c then (true, rest) else (false, text)
  | [] => (false, [])

/-- What follows digits, if there are any at the front of a text. -/
def afterSpareDigits? (text : List Char) : Option (List Char) :=
  match text with
  | c :: _ => if isDigit c then afterDigits? isDigit text else some text
  | [] => some []

/-- What follows the fraction of a number, from behind the point. -/
def afterFraction? (text : List Char) : Option (List Char) :=
  (afterSpareDigits? text).bind afterExponent?

/-- How many digits a whole decimal number may have. -/
def maxDigits : Nat := 4300

/-- Whether digits, with underscores between them, are a whole decimal number: one other than zero
does not begin with zero, and has no more than `maxDigits` digits. -/
def isWhole (whole : List Char) : Bool :=
  if whole.head? == some '0' then whole.all fun c => c == '0' || c == '_'
  else (whole.filter isDigit).length ≤ maxDigits

/-- Whether a text begins with the mark of an exponent or of an imaginary number. -/
def beginsWithMark (text : List Char) : Bool :=
  (text.head?.map fun c => isExponentMark c || isImaginaryMark c).getD false

/-- Whether a decimal number with the given digits in front is imaginary, and what follows it, from
behind these digits. -/
def afterWhole? (whole : List Char) : List Char → Option (Bool × List Char)
  | '.' :: fraction => (afterFraction? fraction).map imaginary
  | rest =>
    if beginsWithMark rest then (afterExponent? rest).map imaginary
    else if isWhole whole then some (false, rest)
    else none

/-- Whether a decimal number is imaginary, and what follows it. -/
def decimal? (text : List Char) : Option (Bool × List Char) :=
  (afterDigits? isDigit text).bind
    (afterWhole? (text.takeWhile fun c => isDigit c || c == '_'))

/-- Whether a character is a hexadecimal digit. -/
def isHexDigit (c : Char) : Bool :=
  (hexValue? c).isSome

/-- What follows the digits of a number after the mark of its base. -/
def afterBased? (isDigitOfBase : Char → Bool) (text : List Char) : Option (List Char) :=
  match text with
  | '_' :: digits => afterDigits? isDigitOfBase digits
  | digits => afterDigits? isDigitOfBase digits

/-- The keywords that may follow a number without a space. -/
def joinedKeywords : List String :=
  ["and", "else", "for", "if", "in", "is", "or", "not"]

/-- Whether a number may end before a text: no word follows, or one that begins like certain
keywords. -/
def endsNumber (text : List Char) : Bool :=
  !(text.head?.map isWordChar).getD false ||
    joinedKeywords.any fun word => word.toList.isPrefixOf text

/-- The digits of the base that a mark behind a zero stands for. -/
def isDigitOfBase? (mark : Char) : Option (Char → Bool) :=
  if mark == 'x' || mark == 'X' then some isHexDigit
  else if mark == 'o' || mark == 'O' then some fun c => '0' ≤ c && c ≤ '7'
  else if mark == 'b' || mark == 'B' then some fun c => c == '0' || c == '1'
  else none

/-- Whether a number, which begins with a digit or a point, is imaginary, and what follows it. -/
def numeral? (text : List Char) : Option (Bool × List Char) :=
  match text with
  | '0' :: mark :: digits =>
    match isDigitOfBase? mark with
    | some isDigitOfBase => (afterBased? isDigitOfBase digits).map fun rest => (false, rest)
    | none => decimal? text
  | '.' :: fraction => (afterFraction? fraction).map imaginary
  | text => decimal? text

/-- The token of a number, which begins with a digit or a point, and what follows it. -/
def number? (text : List Char) : Option (Token × List Char) :=
  (numeral? text).bind fun (marked, after) =>
    if endsNumber after then some (.number marked, after) else none

/-! ### Operators -/

/-- The operators of several characters, the longer ones first. -/
def longOperators : List String :=
  ["**=", "//=", ">>=", "<<=", "...", "!=", "%=", "&=", "**", "*=", "+=", "-=", "->", "//", "/=",
   ":=", "<<", "<=", "==", ">=", ">>", "@=", "^=", "|="]

/-- The operators of one character. -/
def shortOperators : List Char :=
  "%&()*+,-./:;<=>@[]^\x7b|\x7d~".toList

/-- The operator at the front of a text, and what follows. -/
def operator? (text : List Char) : Option (String × List Char) :=
  match longOperators.find? fun op => op.toList.isPrefixOf text with
  | some op => some (op, text.drop op.length)
  | none =>
    match text with
    | c :: rest =>
      if shortOperators.contains c then some (String.singleton c, rest) else none
    | [] => none

/-- The bracket that closes an opening one. -/
def closingOf? : String → Option String
  | "(" => some ")"
  | "[" => some "]"
  | "\x7b" => some "\x7d"
  | _ => none

/-- Whether an operator is a closing bracket. -/
def isClosing (op : String) : Bool :=
  op == ")" || op == "]" || op == "\x7d"

/-- How many brackets may be open at a time. -/
def maxOpenBrackets : Nat := 200

/-- The closing brackets still expected after an operator, given those expected before it. -/
def afterBracket? (expected : List String) (op : String) : Option (List String) :=
  match closingOf? op with
  | some closing =>
    if expected.length < maxOpenBrackets then some (closing :: expected) else none
  | none =>
    if isClosing op then
      match expected with
      | closing :: rest => if closing == op then some rest else none
      | [] => none
    else some expected

/-! ### Indentation -/

/-- An indentation, measured with tab stops every eight columns and every single column. Two lines
compare only if both measures agree. -/
structure Indentation where
  columns : Nat
  narrow : Nat
  deriving DecidableEq, Repr

/-- The indentation of a line and the rest of the line. A backslash at the end of a line that holds
nothing else continues the indentation on the next line, where it must not end the text; the first
such backslash that is indented decides the indentation, which `kept` holds. -/
def measure? (kept : Nat) (line : Indentation) : List Char → Option (Indentation × List Char)
  | ' ' :: rest => measure? kept ⟨line.columns + 1, line.narrow + 1⟩ rest
  | '\t' :: rest => measure? kept ⟨(line.columns / 8 + 1) * 8, line.narrow + 1⟩ rest
  | '\x0c' :: rest => measure? kept ⟨0, 0⟩ rest
  | '\\' :: '\n' :: rest =>
    if rest.isEmpty then none
    else measure? (if kept = 0 then line.columns else kept) line rest
  | '\\' :: _ => none
  | text => some (if kept = 0 then line else ⟨kept, kept⟩, text)

/-- Closes levels until one is as wide as a line's indentation. -/
def closeLevels (line : Indentation) : List Indentation → Option (List Token × List Indentation)
  | [] => if line = ⟨0, 0⟩ then some ([], []) else none
  | level :: levels =>
    if level = line then some ([], level :: levels)
    else if line.columns < level.columns then
      (closeLevels line levels).map fun (tokens, levels) => (.dedent :: tokens, levels)
    else none

/-- How many levels of indentation may be open at a time. -/
def maxLevels : Nat := 99

/-- The changes of indentation before a line, and the levels open after it, the innermost first. -/
def adjust (line : Indentation) (levels : List Indentation) :
    Option (List Token × List Indentation) :=
  let current := levels.head?.getD ⟨0, 0⟩
  if current.columns < line.columns then
    if current.narrow < line.narrow && levels.length < maxLevels then
      some ([.indent], line :: levels)
    else none
  else closeLevels line levels

/-! ### Lexemes -/

/-- The token of the word at the front of a text, or of the string that it is the mark of, and what
follows. -/
def word? (text : List Char) : Option (Token × List Char) :=
  let word := text.takeWhile isWordChar
  match stringMark? word, text.dropWhile isWordChar with
  | some mark, '\'' :: inside => string? mark '\'' inside
  | some mark, '"' :: inside => string? mark '"' inside
  | _, after => (wordToken? word).map fun token => (token, after)

/-- Whether a character is a quote, which begins a string. -/
def isQuote (c : Char) : Bool :=
  c == '\'' || c == '"'

/-- Whether a text begins like a number: with a digit, or with a point and a digit. -/
def beginsNumber : List Char → Bool
  | '.' :: c :: _ => isDigit c
  | c :: _ => isDigit c
  | [] => false

/-- The token that begins with the first character of a text, and what follows it. -/
def lexeme? : List Char → Option (Token × List Char)
  | [] => none
  | c :: rest =>
    if isQuote c then string? "" c rest
    else if beginsNumber (c :: rest) then number? (c :: rest)
    else if isWordChar c then word? (c :: rest)
    else (operator? (c :: rest)).map fun (op, after) => (.op op, after)

/-- The closing brackets still expected after a token, given those expected before it. -/
def afterToken? (expected : List String) : Token → Option (List String)
  | .op op => afterBracket? expected op
  | _ => some expected

/-! ### The tokens of a text -/

/-- A text after the end of its current line. -/
def skipComment (text : List Char) : List Char :=
  text.dropWhile (· != '\n')

/-- A place in a text: the start of a line, with the levels of indentation that are open, or a place
inside a logical line, when the brackets in `expected` are still to be closed. -/
inductive Place where
  | line (levels : List Indentation)
  | inside (levels : List Indentation) (expected : List String)
  deriving DecidableEq, Repr

/-- What comes of one step from a place: the text ends and leaves tokens, it goes on at another
place behind tokens, or it is refused. -/
inductive Advance where
  | ended (tokens : List Token)
  | on (tokens : List Token) (place : Place) (rest : List Char)
  | refused
  deriving DecidableEq, Repr

/-- One step from the start of a line: a line without tokens is passed, and any other one changes
the indentation. -/
def lineStep (levels : List Indentation) (text : List Char) : Advance :=
  match measure? 0 ⟨0, 0⟩ text with
  | none => .refused
  | some (_, []) => .ended (levels.map fun _ => .dedent)
  | some (_, '\n' :: after) => .on [] (.line levels) after
  | some (_, '#' :: after) =>
    match skipComment after with
    | [] => .ended (levels.map fun _ => .dedent)
    | _ :: next => .on [] (.line levels) next
  | some (line, rest) =>
    match adjust line levels with
    | none => .refused
    | some (changes, levels) => .on changes (.inside levels []) rest

/-- The step over the end of a line, which ends the logical line unless brackets are open. -/
def lineEndStep (levels : List Indentation) (expected : List String) (rest : List Char) : Advance :=
  if expected.isEmpty then .on [.newline] (.line levels) rest
  else .on [] (.inside levels expected) rest

/-- The step over a token. -/
def tokenStep (levels : List Indentation) (expected : List String) (text : List Char) : Advance :=
  match lexeme? text with
  | none => .refused
  | some (token, after) =>
    match afterToken? expected token with
    | none => .refused
    | some expected => .on [token] (.inside levels expected) after

/-- One step inside a logical line: a blank, a comment, the end of a line, a line that is continued,
or a token. -/
def insideStep (levels : List Indentation) (expected : List String) : List Char → Advance
  | [] => if expected.isEmpty then .ended (.newline :: levels.map fun _ => .dedent) else .refused
  | ' ' :: rest => .on [] (.inside levels expected) rest
  | '\t' :: rest => .on [] (.inside levels expected) rest
  | '\x0c' :: rest => .on [] (.inside levels expected) rest
  | '#' :: rest => .on [] (.inside levels expected) (skipComment rest)
  | '\n' :: rest => lineEndStep levels expected rest
  | '\\' :: '\n' :: c :: after => .on [] (.inside levels expected) (c :: after)
  | '\\' :: _ => .refused
  | text => tokenStep levels expected text

/-- One step from a place. -/
def Place.step : Place → List Char → Advance
  | line levels, text => lineStep levels text
  | inside levels expected, text => insideStep levels expected text

/-- The tokens from a place on, in at most `fuel` steps. -/
def Place.tokensWithin (fuel : Nat) (place : Place) (text : List Char) : Option (List Token) :=
  match fuel with
  | 0 => none
  | fuel + 1 =>
    match place.step text with
    | .ended tokens => some tokens
    | .on tokens place rest => (place.tokensWithin fuel rest).map (tokens ++ ·)
    | .refused => none

/-- The tokens from a place on. Each character takes at most two steps, one at the start of its
line and one inside it. -/
def Place.tokens (place : Place) (text : List Char) : Option (List Token) :=
  place.tokensWithin (2 * text.length + 2) text

/-- The tokens of a text; nothing when it has none. -/
def tokens? (text : List Char) : Option (List Token) :=
  (Place.line []).tokens text

end SchemaBindings.Source
