import SchemaBindings.Text.Identifier
/-!
# Names

Conventions for names and the passages between them: `PascalCase` for the members of an enum,
`snake_case` and `UPPER_CASE` for tables. A member name never is a reserved word and never the name
of the placeholder member, and `memberNames` keeps the members of one enum apart.
-/

set_option autoImplicit false
set_option relaxedAutoImplicit false

namespace SchemaBindings.Naming

open SchemaBindings.Text

/-! ### Conventions -/

/-- The words of a name: what stands between its underscores. -/
def splitWords : List Char → List (List Char)
  | [] => [[]]
  | c :: rest =>
    if c = '_' then [] :: splitWords rest
    else
      match splitWords rest with
      | [] => [[c]]
      | word :: words => (c :: word) :: words

/-- A word with its first character in upper case and the others in lower case. -/
def capitalize : List Char → List Char
  | [] => []
  | c :: rest => upperChar c ++ lower rest

/-- `SCREAMING_SNAKE_CASE` turned into `PascalCase`; empty words contribute nothing. -/
def pascal (name : List Char) : List Char :=
  (splitWords name).flatMap capitalize

/-- Puts an underscore between a character and a capitalized word after it. The scan goes from left
to right; a match takes the character, the capital and all lower-case letters after it, so `inTail`
says that the lower-case letters at the front belong to a match. A line feed is never the character
of a match. -/
def breakBeforeWords : (inTail : Bool) → List Char → List Char
  | inTail, c :: d :: e :: rest =>
    if inTail && isLowerLetter c then c :: breakBeforeWords true (d :: e :: rest)
    else if c != '\n' && isUpperLetter d && isLowerLetter e then
      c :: '_' :: d :: e :: breakBeforeWords true rest
    else c :: breakBeforeWords false (d :: e :: rest)
  | _, short => short

/-- Puts an underscore between a lower-case letter or digit and a capital after it. -/
def breakBeforeCapitals : List Char → List Char
  | c :: d :: rest =>
    if (isLowerLetter c || isDigit c) && isUpperLetter d then
      c :: '_' :: d :: breakBeforeCapitals rest
    else c :: breakBeforeCapitals (d :: rest)
  | short => short

/-- `PascalCase` or `camelCase` turned into `snake_case`. -/
def snake (name : List Char) : List Char :=
  lower (breakBeforeCapitals (breakBeforeWords false name))

/-- A name in `UPPER_CASE`. -/
def upperSnake (name : List Char) : List Char :=
  upper (snake name)

/-- A name that is safe to declare: a reserved word gets an underscore. -/
def safe (name : List Char) : List Char :=
  if isKeyword name then name ++ ['_'] else name

/-! ### Members of an enum -/

/-- The member that stands for every value an enum does not declare. -/
def placeholder : List Char := "Unknown".toList

/-- The member name of an enum value taken alone. -/
def memberName (value : List Char) : List Char :=
  let member := pascal value
  if member = placeholder then member ++ ['_'] else safe member

/-- A name followed by `count` underscores. -/
def underscored (name : List Char) (count : Nat) : List Char :=
  name ++ List.replicate count '_'

/-- The name with the fewest underscores added that is not taken. One of the first
`taken.length + 1` candidates is free, because they are pairwise different. -/
def leastFree (taken : List (List Char)) (name : List Char) : List Char :=
  match ((List.range (taken.length + 1)).map (underscored name)).find? (!taken.contains ·) with
  | some free => free
  | none => name

/-- Member names for a list of values when the names in `taken` are in use. -/
def memberNamesAfter (taken : List (List Char)) : List (List Char) → List (List Char)
  | [] => []
  | value :: values =>
    let member := leastFree taken (memberName value)
    member :: memberNamesAfter (member :: taken) values

/-- The member names of an enum's values, in order. -/
def memberNames (values : List (List Char)) : List (List Char) :=
  memberNamesAfter [placeholder] values

end SchemaBindings.Naming
