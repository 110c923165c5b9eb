import SchemaBindings.Template.Basic
import SchemaBindings.Text.Line
/-!
# Reading templates

The text of a template has tags: an expression between double braces, a block tag between a brace
and a percent sign. The line feed right after a block tag is dropped, and so is the white space
before a block tag that begins its line. Carriage returns count as line ends.

`splitTags` cuts a text into tags and the text between them; `nodesOf?` matches the block
tags with their ends. Only the tags that the standing templates use are understood: a name from
`knownNames` with filters, the loop over the members of an enum, and a condition without an
alternative. A template with any other tag is refused as a whole (`parse?` gives nothing), so that
no part of it is rendered by these rules.
-/

set_option autoImplicit false
set_option relaxedAutoImplicit false

namespace SchemaBindings.Template

open SchemaBindings.Text

/-! ### Segments -/

/-- A piece of a template text: plain text, an expression tag, or a block tag. -/
inductive Segment where
  | text (value : List Char)
  | output (inside : List Char)
  | block (inside : List Char)
  deriving DecidableEq, Repr

/-- How a tag opens. -/
inductive Opening where
  | output
  | block
  | remark
  deriving DecidableEq, Repr

/-- The text up to the first tag, and how the tag opens with what follows its opening. -/
def untilTag : List Char → List Char × Option (Opening × List Char)
  | [] => ([], none)
  | '\x7b' :: '\x7b' :: rest => ([], some (.output, rest))
  | '\x7b' :: '%' :: rest => ([], some (.block, rest))
  | '\x7b' :: '#' :: rest => ([], some (.remark, rest))
  | c :: rest =>
    let (text, tag) := untilTag rest
    (c :: text, tag)

/-- The inside of a tag that closes with `mark` and a brace, and what follows it. -/
def untilClose (mark : Char) : List Char → Option (List Char × List Char)
  | [] => none
  | c :: rest =>
    match rest with
    | '\x7d' :: after =>
      if c = mark then some ([], after)
      else (untilClose mark rest).map fun (inside, after) => (c :: inside, after)
    | _ => (untilClose mark rest).map fun (inside, after) => (c :: inside, after)

/-- The text before a block tag without the white space between the start of the tag's line and the
tag. When the text has no line feed, it begins a line only if `lineStart` says so. -/
def dropLineLead (lineStart : Bool) (text : List Char) : List Char :=
  let tail := (text.reverse.takeWhile (· != '\n')).reverse
  if (lineStart || text.contains '\n') && isAllBlank tail then
    text.take (text.length - tail.length)
  else text

/-- A text without the line feed at its front, and whether there was one. -/
def dropLineFeed : List Char → List Char × Bool
  | '\n' :: rest => (rest, true)
  | text => (text, false)

/-- Whether the inside of a remark has a mark at an end, which moves white space about. -/
def isMarked (inside : List Char) : Bool :=
  [inside.head?, inside.getLast?].any fun c => c == some '-' || c == some '+'

/-- The segments of a text; nothing when a tag does not close or a remark is marked. `fuel` bounds
the number of tags. -/
def splitTags : (fuel : Nat) → (lineStart : Bool) → List Char → Option (List Segment)
  | 0, _, _ => none
  | fuel + 1, lineStart, text =>
    match untilTag text with
    | (plain, none) => some [.text plain]
    | (plain, some (.output, rest)) => do
      let (inside, rest) ← untilClose '\x7d' rest
      return .text plain :: .output inside :: (← splitTags fuel false rest)
    | (plain, some (.block, rest)) => do
      let (inside, rest) ← untilClose '%' rest
      let (rest, fed) := dropLineFeed rest
      return .text (dropLineLead lineStart plain) :: .block inside :: (← splitTags fuel fed rest)
    | (plain, some (.remark, rest)) => do
      let (inside, rest) ← untilClose '#' rest
      if isMarked inside then none
      let (rest, fed) := dropLineFeed rest
      return .text (dropLineLead lineStart plain) :: (← splitTags fuel fed rest)

/-! ### Tags -/

/-- A part of the inside of a tag. -/
inductive Word where
  | name (text : String)
  | mark (c : Char)
  deriving DecidableEq, Repr

/-- Characters of the names in tags. -/
def isNameChar (c : Char) : Bool :=
  isLowerLetter c || isUpperLetter c || isDigit c || c == '_'

/-- Puts a character in front of a list of words, of which the first may go on from it. -/
def consWord (c : Char) (continues : Bool) : List Word → List Word
  | .name text :: words =>
    if continues then .name (String.ofList (c :: text.toList)) :: words
    else .name (String.singleton c) :: .name text :: words
  | words => .name (String.singleton c) :: words

/-- The words of the inside of a tag. -/
def wordsOf : List Char → List Word
  | [] => []
  | c :: rest =>
    if isBlank c then wordsOf rest
    else if isNameChar c then consWord c ((rest.head?.map isNameChar).getD false) (wordsOf rest)
    else .mark c :: wordsOf rest

/-- The filter with a given name. -/
def filterOf? : String → Option Filter
  | "pascal_case" => some .pascalCase
  | "snake_case" => some .snakeCase
  | "upper_case" => some .upperCase
  | "repr" => some .literal
  | "safe_comment" => some .comment
  | "safe_identifier" => some .safeName
  | _ => none

/-- Filters, each behind a bar. -/
def filtersOf? : List Word → Option (List Filter)
  | [] => some []
  | .mark '|' :: .name name :: words => do
    return (← filterOf? name) :: (← filtersOf? words)
  | _ => none

/-- The rest of a dotted name, and the words after it. -/
def dottedOf : List Word → List String × List Word
  | .mark '.' :: .name name :: words =>
    let (names, words) := dottedOf words
    (name :: names, words)
  | words => ([], words)

/-- The names that are understood, each with the parts of its value that are. -/
def knownNames : List (String × List String) :=
  [("enum", ["name", "description"]), ("members", []), ("value", ["name", "description"]),
    ("member", []), ("unknown", []), ("body", []), ("loop", ["index0"])]

/-- Whether a name with the way to a part of its value is understood. -/
def isKnown (name : String) (path : List String) : Bool :=
  match knownNames.lookup name, path with
  | some _, [] => true
  | some parts, [part] => parts.contains part
  | _, _ => false

/-- An expression. -/
def exprOf? : List Word → Option Expr
  | .name name :: words => do
    let (names, words) := dottedOf words
    if isKnown name names then return ⟨name, names, ← filtersOf? words⟩ else none
  | _ => none

/-- What a block tag says. -/
inductive Block where
  | forMembers
  | endFor
  | whenTrue (condition : Expr)
  | endIf
  deriving DecidableEq, Repr

/-- The block tag with the given words. -/
def blockOf? : List Word → Option Block
  | [.name "endfor"] => some .endFor
  | [.name "endif"] => some .endIf
  | [.name "for", .name "value", .mark ',', .name "member", .name "in", .name "members"] =>
    some .forMembers
  | .name "if" :: words => (exprOf? words).map .whenTrue
  | _ => none

/-! ### Matching -/

/-- The nodes up to the end of the segments or to a block tag that ends a block, which is returned
with the segments after it. `fuel` bounds the number of segments. -/
def nodesOf? : (fuel : Nat) → List Segment → Option (List Node × Option (Block × List Segment))
  | 0, _ => none
  | _ + 1, [] => some ([], none)
  | fuel + 1, .text value :: segments => do
    let (nodes, ending) ← nodesOf? fuel segments
    return (if value.isEmpty then nodes else .text value :: nodes, ending)
  | fuel + 1, .output inside :: segments => do
    let expr ← exprOf? (wordsOf inside)
    let (nodes, ending) ← nodesOf? fuel segments
    return (.output expr :: nodes, ending)
  | fuel + 1, .block inside :: segments => do
    match ← blockOf? (wordsOf inside) with
    | .endFor => return ([], some (.endFor, segments))
    | .endIf => return ([], some (.endIf, segments))
    | .forMembers =>
      match ← nodesOf? fuel segments with
      | (body, some (.endFor, segments)) =>
        let (nodes, ending) ← nodesOf? fuel segments
        return (.forMembers body :: nodes, ending)
      | _ => none
    | .whenTrue condition =>
      match ← nodesOf? fuel segments with
      | (body, some (.endIf, segments)) =>
        let (nodes, ending) ← nodesOf? fuel segments
        return (.whenTrue condition body :: nodes, ending)
      | _ => none

/-- The template with a given text; nothing when its tags are not understood or do not match. -/
def parse? (text : List Char) : Option (List Node) := do
  let text := unifyLineEnds text
  let segments ← splitTags (text.length + 1) true text
  match ← nodesOf? (segments.length + 1) segments with
  | (nodes, none) => return nodes
  | (_, some _) => none

end SchemaBindings.Template
