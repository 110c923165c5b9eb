import SchemaBindings.Text.Encoding
import SchemaBindings.Text.Quoted
/-!
# Text in backslash form

Bytes stand for the characters of their own numbers, and a backslash begins the form of a character:
its number in hexadecimal or octal digits, or a letter for a control character. In the raw form only
numbers behind a small or capital letter U are read.
-/

set_option autoImplicit false
set_option relaxedAutoImplicit false

namespace SchemaBindings.Text

/-- Characters that a letter or mark behind a backslash stands for. -/
def backslashLetters : List (Char × Char) :=
  [('\\', '\\'), ('\'', '\''), ('"', '"'), ('b', '\x08'), ('f', '\x0c'), ('t', '\t'), ('n', '\n'),
    ('r', '\r'), ('v', '\x0b'), ('a', '\x07')]

/-- How many hexadecimal digits follow a letter behind a backslash. -/
def backslashWidth? (raw : Bool) (letter : Char) : Option Nat :=
  if letter = 'u' then some 4
  else if letter = 'U' then some 8
  else if letter = 'x' && !raw then some 2
  else none

/-- The characters of a text in backslash form, with nothing in the place of each fault. A fault
takes the digits before the first character that is none. -/
def backslashPieces (raw : Bool) : List Char → List (Option Char)
  | [] => []
  | ['\\'] => if raw then [some '\\'] else [none]
  | '\\' :: letter :: rest =>
    match backslashWidth? raw letter with
    | some width =>
      let digits := (rest.take width).takeWhile fun c => (hexValue? c).isSome
      let number := if digits.length = width then readHex digits else none
      number.bind charOfNumber? :: backslashPieces raw (rest.drop digits.length)
    | none =>
      if raw then some '\\' :: some letter :: backslashPieces raw rest
      else if letter = '\n' then backslashPieces raw rest
      else
        match backslashLetters.lookup letter with
        | some c => some c :: backslashPieces raw rest
        | none =>
          let isOctal (c : Char) : Bool := '0' ≤ c && c ≤ '7'
          if isOctal letter then
            let further := (rest.take 2).takeWhile isOctal
            let number := (letter :: further).foldl (fun value c => value * 8 + (c.toNat - 0x30)) 0
            charOfNumber? number :: backslashPieces raw (rest.drop further.length)
          else some '\\' :: some letter :: backslashPieces raw rest
  | c :: rest => some c :: backslashPieces raw rest
termination_by text => text.length
decreasing_by all_goals simp only [List.length_drop, List.length_cons]; omega

end SchemaBindings.Text
