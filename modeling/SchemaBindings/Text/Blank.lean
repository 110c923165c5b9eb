/-!
# White space

The 29 white-space characters, and trimming. Texts are handled as lists of characters: a statement
about a text is then an induction on the list, and `String` values are converted at the edges.
-/

set_option autoImplicit false
set_option relaxedAutoImplicit false

namespace SchemaBindings.Text

/-- White space: the ASCII separators from tab to carriage return and from U+001C to the space, the
next-line and no-break controls, and the space separators, line and paragraph separators of
Unicode. -/
def isBlank (c : Char) : Bool :=
  let code := c.toNat
  (0x09 ≤ code && code ≤ 0x0d) || (0x1c ≤ code && code ≤ 0x20) || code == 0x85 || code == 0xa0 ||
    code == 0x1680 || (0x2000 ≤ code && code ≤ 0x200a) || code == 0x2028 || code == 0x2029 ||
    code == 0x202f || code == 0x205f || code == 0x3000

/-- A text without its leading white space. -/
def trimLeft (text : List Char) : List Char :=
  text.dropWhile isBlank

/-- A text without its trailing white space: a character stays when something that stays follows it
or when it is not blank itself. -/
def trimRight : List Char → List Char
  | [] => []
  | c :: rest =>
    match trimRight rest with
    | [] => if isBlank c then [] else [c]
    | d :: kept => c :: d :: kept

/-- A text without leading and trailing white space. -/
def trim (text : List Char) : List Char :=
  trimRight (trimLeft text)

/-- Whether a text holds nothing but white space. -/
def isAllBlank (text : List Char) : Bool :=
  text.all isBlank

end SchemaBindings.Text
