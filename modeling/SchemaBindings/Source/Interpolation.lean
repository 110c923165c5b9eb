/-!
# Interpolated strings

A string with the mark `f` holds literal text and fields between braces; two braces of one kind
stand for one of them. A field holds an expression and then, each only if wanted, an equality sign,
a conversion and a format after a colon. A format may hold fields again, whose formats hold none.

`interpolated?` gives the texts of the expressions of all fields. Whether they are expressions is
not decided here.
-/

set_option autoImplicit false
set_option relaxedAutoImplicit false

namespace SchemaBindings.Source

/-! ### The text of an expression -/

/-- A place inside the expression of a field: the brackets still open, the innermost first, the
quote of the string around the place, with whether it is a triple one, and the number of characters
that belong to what came before. -/
structure FieldPlace where
  brackets : List Char := []
  quote : Option (Char × Bool) := none
  skipped : Nat := 0
  deriving DecidableEq, Repr

/-- What a character means at a place inside the expression of a field: the expression goes on, it
has ended before the character, or it is malformed. -/
inductive FieldStep where
  | goOn (place : FieldPlace)
  | ended
  | malformed
  deriving DecidableEq, Repr

/-- The bracket that a closing one belongs to. -/
def openingOf? : Char → Option Char
  | ')' => some '('
  | ']' => some '['
  | '\x7d' => some '\x7b'
  | _ => none

/-- Whether a character opens a bracket. -/
def isOpening (c : Char) : Bool :=
  c == '(' || c == '[' || c == '\x7b'

/-- Whether a character and the next one are a comparison sign that holds an equality sign. -/
def isComparisonSign (c : Char) (rest : List Char) : Bool :=
  rest.head? == some '=' && (c == '!' || c == '=' || c == '<' || c == '>')

/-- Whether the expression of a field ends before a character outside all brackets. -/
def endsField (c : Char) : Bool :=
  c == '!' || c == ':' || c == '=' || c == '\x7d'

/-- Whether a quote comes twice more. -/
def isTripled (quote : Char) (rest : List Char) : Bool :=
  [quote, quote].isPrefixOf rest

/-- What a character inside a string means. -/
def FieldPlace.inString (place : FieldPlace) (quote : Char) (triple : Bool) (c : Char)
    (rest : List Char) : FieldStep :=
  if c != quote then .goOn place
  else if !triple then .goOn { place with quote := none }
  else if isTripled quote rest then .goOn { place with quote := none, skipped := 2 }
  else .goOn place

/-- What a character outside of strings means. -/
def FieldPlace.outside (place : FieldPlace) (c : Char) (rest : List Char) : FieldStep :=
  if c == '\'' || c == '"' then
    let triple := isTripled c rest
    .goOn { place with quote := some (c, triple), skipped := if triple then 2 else 0 }
  else if isOpening c then .goOn { place with brackets := c :: place.brackets }
  else if c == '#' then .malformed
  else
    match place.brackets, openingOf? c with
    | [], closed =>
      if isComparisonSign c rest then .goOn { place with skipped := 1 }
      else if endsField c then .ended
      else if closed.isSome then .malformed
      else .goOn place
    | bracket :: brackets, some opening =>
      if bracket == opening then .goOn { place with brackets } else .malformed
    | _ :: _, none => .goOn place

/-- What a character means before the given rest. An expression holds no backslash, and outside of
strings no `#`. -/
def FieldPlace.step (place : FieldPlace) (c : Char) (rest : List Char) : FieldStep :=
  if place.skipped != 0 then .goOn { place with skipped := place.skipped - 1 }
  else if c == '\\' then .malformed
  else
    match place.quote with
    | some (quote, triple) => place.inString quote triple c rest
    | none => place.outside c rest

/-- The text of an expression up to its end, and what follows. -/
def fieldText? : FieldPlace → List Char → Option (List Char × List Char)
  | _, [] => none
  | place, c :: rest =>
    match place.step c rest with
    | .goOn place => (fieldText? place rest).map fun (text, after) => (c :: text, after)
    | .ended => some ([], c :: rest)
    | .malformed => none

/-! ### Literal text and fields -/

/-- What follows literal text: nothing, or a brace that is not doubled. In a format braces are not
doubled at all; outside of formats a closing one has to be. A character name after a backslash keeps
its braces unless backslashes are `raw`; `inName` says that such a name has begun. -/
def afterLiteral? (raw format : Bool) : (inName : Bool) → List Char → Option (List Char)
  | _, [] => some []
  | true, c :: rest => afterLiteral? raw format (c != '\x7d') rest
  | false, '\\' :: c :: rest =>
    if raw || c == '\x7b' || c == '\x7d' then afterLiteral? raw format false (c :: rest)
    else afterLiteral? raw format (c == 'N' && rest.head? == some '\x7b') rest
  | false, c :: rest =>
    if c != '\x7b' && c != '\x7d' then afterLiteral? raw format false rest
    else if format then some (c :: rest)
    else
      match rest with
      | d :: after =>
        if d == c then afterLiteral? raw format false after
        else if c == '\x7b' then some (c :: rest)
        else none
      | [] => if c == '\x7b' then some [c] else none

/-- Whether a character is blank around an expression. -/
def isFieldBlank (c : Char) : Bool :=
  c == ' ' || c == '\t' || c == '\n' || c == '\x0c'

/-- A text without the equality sign of a field and the blanks after it, if there is one. -/
def afterEqualitySign : List Char → List Char
  | '=' :: rest => rest.dropWhile fun c => isFieldBlank c || c == '\x0b'
  | text => text

/-- A text without the conversion of a field, if there is one. It is followed by a format or the
end of the field. -/
def afterConversion? : List Char → Option (List Char)
  | '!' :: conversion :: c :: rest =>
    if ['s', 'r', 'a'].contains conversion && (c == ':' || c == '\x7d') then some (c :: rest)
    else none
  | '!' :: _ => none
  | text => some text

/-- The texts of the expressions in the fields of a text, which is `depth` formats deep, and what
follows it: nothing, or the closing brace of the field around it. -/
def fields? (raw : Bool) : (fuel depth : Nat) → List Char →
    Option (List (List Char) × List Char)
  | 0, _, _ => none
  | fuel + 1, depth, text => do
    match ← afterLiteral? raw (depth != 0) false text with
    | '\x7b' :: field =>
      if 2 ≤ depth then failure
      let (expression, after) ← fieldText? {} field
      if expression.all isFieldBlank then failure
      let after ← afterConversion? (afterEqualitySign after)
      let (inner, after) ←
        match after with
        | ':' :: format => fields? raw fuel (depth + 1) format
        | after => some ([], after)
      match after with
      | '\x7d' :: after => do
        let (others, after) ← fields? raw fuel depth after
        return (expression :: (inner ++ others), after)
      | _ => failure
    | after => return ([], after)

/-- The texts of the expressions in an interpolated string. -/
def interpolated? (raw : Bool) (inside : List Char) : Option (List (List Char)) := do
  let (expressions, _) ← fields? raw (inside.length + 1) 0 inside
  return expressions

end SchemaBindings.Source
