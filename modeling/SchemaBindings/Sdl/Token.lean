import SchemaBindings.Text.Quoted
import SchemaBindings.Text.Case
/-!
# Tokens of the schema language

The text of a document as tokens: marks, names, numbers and strings. White space, commas, byte order
marks and comments separate tokens and leave nothing behind. A text that cannot be read on ends the
list of tokens with the fault, so that a parser meets the fault only when it gets there.
-/

set_option autoImplicit false
set_option relaxedAutoImplicit false

namespace SchemaBindings.Sdl

open SchemaBindings.Text

/-- The marks of the language. -/
inductive Mark where
  | bang
  | dollar
  | ampersand
  | parenLeft
  | parenRight
  | spread
  | colon
  | equals
  | atSign
  | bracketLeft
  | bracketRight
  | braceLeft
  | pipe
  | braceRight
  deriving DecidableEq, Repr

namespace Mark

/-- How a mark is written. -/
def text : Mark → String
  | bang => "!"
  | dollar => "$"
  | ampersand => "&"
  | parenLeft => "("
  | parenRight => ")"
  | spread => "..."
  | colon => ":"
  | equals => "="
  | atSign => "@"
  | bracketLeft => "["
  | bracketRight => "]"
  | braceLeft => "\x7b"
  | pipe => "|"
  | braceRight => "\x7d"

/-- The mark of one character. -/
def ofChar? : Char → Option Mark
  | '!' => some bang
  | '$' => some dollar
  | '&' => some ampersand
  | '(' => some parenLeft
  | ')' => some parenRight
  | ':' => some colon
  | '=' => some equals
  | '@' => some atSign
  | '[' => some bracketLeft
  | ']' => some bracketRight
  | '\x7b' => some braceLeft
  | '|' => some pipe
  | '\x7d' => some braceRight
  | _ => none

end Mark

/-- Why a text cannot be read on as tokens. -/
inductive LexicalFault where
  | strayCharacter (c : Char)
  | missingWhole (digits : List Char)
  | shortSpread
  | singleQuote
  | expectedDigit (found : Option Char)
  | digitAfterZero (found : Char)
  | openString
  | brokenEscape (text : List Char)
  | brokenCode (text : List Char)
  deriving DecidableEq, Repr

/-- A character in a message: quoted if it is printable ASCII, else by its code; the end of the text
by a name of its own. -/
def characterText : Option Char → String
  | none => "<EOF>"
  | some c =>
    if 0x20 ≤ c.toNat && c.toNat ≤ 0x7e then "'" ++ String.singleton c ++ "'"
    else
      let width := if c.toNat ≤ 0xffff then 4 else if c.toNat ≤ 0xfffff then 5 else 6
      "U+" ++ String.ofList (upper (hexDigits width c.toNat))

/-- The text of a lexical fault. -/
def LexicalFault.message : LexicalFault → String
  | strayCharacter c => "Unexpected character: " ++ characterText (some c) ++ "."
  | missingWhole digits =>
    "Invalid number, expected digit before '.', did you mean '0." ++ String.ofList digits ++ "'?"
  | shortSpread => "Unexpected '..', did you mean '...'?"
  | singleQuote =>
    "Unexpected single quote character ('), did you mean to use a double quote (\")?"
  | expectedDigit found =>
    "Invalid number, expected digit but got: " ++ characterText found ++ "."
  | digitAfterZero found =>
    "Invalid number, unexpected digit after 0: " ++ characterText (some found) ++ "."
  | openString => "Unterminated string."
  | brokenEscape text => "Invalid character escape sequence: '" ++ String.ofList text ++ "'."
  | brokenCode text => "Invalid Unicode escape sequence: '" ++ String.ofList text ++ "'."

/-- A token. Numbers keep their text; a string knows whether it is a block of lines. -/
inductive Token where
  | mark (mark : Mark)
  | name (text : String)
  | int (text : String)
  | float (text : String)
  | string (value : String) (block : Bool)
  | endOfText
  | fault (fault : LexicalFault)
  deriving DecidableEq, Repr

/-- The text that a token stands for, if it is a name or literal. -/
def Token.value? : Token → Option String
  | name text | int text | float text | string text _ => some text
  | mark _ | endOfText | fault _ => none

/-- A token in a message. -/
def Token.describe : Token → String
  | mark m => "'" ++ m.text ++ "'"
  | name text => "Name '" ++ text ++ "'"
  | int text => "Int '" ++ text ++ "'"
  | float text => "Float '" ++ text ++ "'"
  | string value false => "String '" ++ value ++ "'"
  | string value true => "BlockString '" ++ value ++ "'"
  | endOfText => "<EOF>"
  | fault f => f.message

/-! ### Names and numbers -/

/-- Characters that a name begins with. -/
def isNameStart (c : Char) : Bool :=
  isLowerLetter c || isUpperLetter c || c == '_'

/-- Characters that a name goes on with. -/
def isNameChar (c : Char) : Bool :=
  isNameStart c || isDigit c

/-- One or more digits. -/
def readDigits (text : List Char) : Except LexicalFault (List Char × List Char) :=
  let digits := text.takeWhile isDigit
  if digits.isEmpty then .error (.expectedDigit text.head?)
  else .ok (digits, text.dropWhile isDigit)

/-- The digits of a number before a point: zero alone, or digits without a leading zero. -/
def readWhole (text : List Char) : Except LexicalFault (List Char × List Char) :=
  match text with
  | '0' :: c :: rest =>
    if isDigit c then .error (.digitAfterZero c) else .ok (['0'], c :: rest)
  | text => readDigits text

/-- A point and the digits behind it, if the point comes next. -/
def readFraction (text : List Char) : Except LexicalFault (List Char × List Char) :=
  match text with
  | '.' :: rest => do
    let (digits, rest) ← readDigits rest
    return ('.' :: digits, rest)
  | text => .ok ([], text)

/-- An exponent, if its mark comes next. -/
def readExponent (text : List Char) : Except LexicalFault (List Char × List Char) :=
  match text with
  | mark :: rest =>
    if mark = 'e' || mark = 'E' then do
      let sign := (rest.take 1).filter fun c => c == '+' || c == '-'
      let (digits, rest) ← readDigits (rest.drop sign.length)
      return (mark :: sign ++ digits, rest)
    else .ok ([], text)
  | [] => .ok ([], text)

/-- A number. Neither a point nor a letter may follow it. -/
def readNumber (text : List Char) : Except LexicalFault (Token × List Char) := do
  let sign := (text.take 1).filter fun c => c == '-'
  let (whole, rest) ← readWhole (text.drop sign.length)
  let (fraction, rest) ← readFraction rest
  let (exponent, rest) ← readExponent rest
  match rest with
  | c :: _ => if c = '.' || isNameStart c then throw (.expectedDigit (some c))
  | [] => pure ()
  if fraction.isEmpty && exponent.isEmpty then
    return (.int (String.ofList (sign ++ whole)), rest)
  return (.float (String.ofList (sign ++ whole ++ fraction ++ exponent)), rest)

/-! ### Strings -/

/-- What a letter stands for behind a backslash. -/
def escaped? : Char → Option Char
  | '"' => some '"'
  | '\\' => some '\\'
  | '/' => some '/'
  | 'b' => some '\x08'
  | 'f' => some '\x0c'
  | 'n' => some '\n'
  | 'r' => some '\r'
  | 't' => some '\t'
  | _ => none

/-- The character of a code, unless the code is half of a pair or too large. -/
def character? (code : Nat) : Option Char :=
  if h : code.isValidChar then some (Char.ofNatAux code h) else none

/-- The code in four hexadecimal digits. -/
def fourDigits? (text : List Char) : Option Nat :=
  if text.length = 4 then readHex text else none

/-- The character of an escape with four digits, or with two times four digits when the first code
is the leading half of a pair. `text` begins behind the letter of the escape. -/
def readFixedCode (text : List Char) : Except LexicalFault (Char × List Char) :=
  let broken := .error (.brokenCode ('\\' :: 'u' :: text.take 4))
  match fourDigits? (text.take 4) with
  | none => broken
  | some code =>
    match character? code with
    | some c => .ok (c, text.drop 4)
    | none =>
      match text.drop 4 with
      | '\\' :: 'u' :: second =>
        match fourDigits? (second.take 4) with
        | some trail =>
          if code < 0xdc00 && 0xdc00 ≤ trail && trail ≤ 0xdfff then
            .ok (Char.ofNat (0x10000 + (code - 0xd800) * 0x400 + (trail - 0xdc00)),
              second.drop 4)
          else broken
        | none => broken
      | _ => broken

/-- How many digits an escape in braces may have. -/
def maxCodeDigits : Nat := 8

/-- The character of an escape in braces, with one to eight digits. `text` begins behind the opening
brace. A broken escape is shown up to the first character that does not fit. -/
def readBracedCode (text : List Char) : Except LexicalFault (Char × List Char) :=
  let digits := (text.take maxCodeDigits).takeWhile fun c => (hexValue? c).isSome
  let rest := text.drop digits.length
  let shown := digits ++ rest.take 1
  let broken := .error (.brokenCode ('\\' :: 'u' :: '\x7b' :: shown))
  match rest with
  | '\x7d' :: after =>
    match if digits.isEmpty then none else (readHex digits).bind character? with
    | some c => .ok (c, after)
    | none => broken
  | _ => broken

/-- The character of an escape; `text` begins behind the backslash. -/
def readEscape (text : List Char) : Except LexicalFault (Char × List Char) :=
  match text with
  | 'u' :: '\x7b' :: rest => readBracedCode rest
  | 'u' :: rest => readFixedCode rest
  | c :: rest =>
    match escaped? c with
    | some value => .ok (value, rest)
    | none => .error (.brokenEscape ['\\', c])
  | [] => .error (.brokenEscape ['\\'])

/-- A string on one line, from behind its opening quote. -/
def readLine : (fuel : Nat) → List Char → Except LexicalFault (List Char × List Char)
  | 0, _ | _, [] => .error .openString
  | fuel + 1, c :: rest =>
    if c = '"' then .ok ([], rest)
    else if c = '\n' || c = '\r' then .error .openString
    else if c = '\\' then do
      let (value, rest) ← readEscape rest
      let (text, rest) ← readLine fuel rest
      return (value :: text, rest)
    else do
      let (text, rest) ← readLine fuel rest
      return (c :: text, rest)

/-- The lines of a block of text, from behind its opening quotes; the first line is the rest of the
current one. Three quotes close the block unless a backslash stands before them. -/
def readLines : List Char → Except LexicalFault (List (List Char) × List Char)
  | [] => .error .openString
  | '"' :: '"' :: '"' :: rest => .ok ([[]], rest)
  | '\\' :: '"' :: '"' :: '"' :: rest => do
    let (lines, rest) ← readLines rest
    return (lines.modifyHead (['"', '"', '"'] ++ ·), rest)
  | '\r' :: '\n' :: rest => do
    let (lines, rest) ← readLines rest
    return ([] :: lines, rest)
  | c :: rest => do
    let (lines, rest) ← readLines rest
    if c = '\n' || c = '\r' then return ([] :: lines, rest)
    return (lines.modifyHead (c :: ·), rest)

/-- Blanks at the beginning of a line of a block. -/
def isIndent (c : Char) : Bool :=
  c == ' ' || c == '\t'

/-- The text of a block: its lines without the indentation that all but the first have in common,
and without the blank lines at the beginning and at the end. -/
def blockText (lines : List (List Char)) : List Char :=
  let isBlank (line : List Char) : Bool := line.all isIndent
  let indents := (lines.tail.filter (!isBlank ·)).map fun line => (line.takeWhile isIndent).length
  let dedented :=
    match lines with
    | [] => []
    | first :: rest =>
      first :: rest.map fun (line : List Char) => line.drop (indents.min?.getD line.length)
  let kept := ((dedented.dropWhile isBlank).reverse.dropWhile isBlank).reverse
  (kept.intersperse ['\n']).flatten

/-! ### Tokens -/

/-- One token, from its first character on. -/
def readToken (text : List Char) : Except LexicalFault (Token × List Char) :=
  match text with
  | [] => .ok (.endOfText, [])
  | '.' :: '.' :: '.' :: rest => .ok (.mark .spread, rest)
  | '.' :: '.' :: _ => .error .shortSpread
  | '.' :: rest =>
    let digits := rest.takeWhile isDigit
    .error (if digits.isEmpty then .strayCharacter '.' else .missingWhole digits)
  | '"' :: '"' :: '"' :: rest => do
    let (lines, rest) ← readLines rest
    return (.string (String.ofList (blockText lines)) true, rest)
  | '"' :: rest => do
    let (value, rest) ← readLine (rest.length + 1) rest
    return (.string (String.ofList value) false, rest)
  | c :: rest =>
    match Mark.ofChar? c with
    | some mark => .ok (.mark mark, rest)
    | none =>
      if isDigit c || c = '-' then readNumber (c :: rest)
      else if isNameStart c then
        .ok (.name (String.ofList (c :: rest.takeWhile isNameChar)), rest.dropWhile isNameChar)
      else if c = '\'' then .error .singleQuote
      else .error (.strayCharacter c)

/-- Characters between tokens. -/
def isSeparator (c : Char) : Bool :=
  c == ' ' || c == '\t' || c == ',' || c == '\ufeff' || c == '\n' || c == '\r'

/-- The tokens of a text, closed by its end or by a fault, each with the text from its beginning on.
Each round takes a comment, a separator or a token; `fuel` bounds their number. -/
def placedTokensWithin : (fuel : Nat) → List Char → List (Token × List Char)
  | 0, _ | _, [] => [(.endOfText, [])]
  | fuel + 1, '#' :: rest =>
    placedTokensWithin fuel (rest.dropWhile fun c => c != '\n' && c != '\r')
  | fuel + 1, c :: rest =>
    if isSeparator c then placedTokensWithin fuel rest
    else
      match readToken (c :: rest) with
      | .error fault => [(.fault fault, c :: rest)]
      | .ok (token, after) => (token, c :: rest) :: placedTokensWithin fuel after

/-- The tokens of a text, each with the text from its beginning on. -/
def placedTokens (text : List Char) : List (Token × List Char) :=
  placedTokensWithin (text.length + 1) text

/-- The tokens of a text. -/
def tokens (text : List Char) : List Token :=
  (placedTokens text).map Prod.fst

/-- How many characters stand before the token of a number, counted from zero. -/
def tokenOffset (text : List Char) (index : Nat) : Nat :=
  text.length - (((placedTokens text)[index]?.map Prod.snd).getD []).length

end SchemaBindings.Sdl
