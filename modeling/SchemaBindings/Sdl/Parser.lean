import SchemaBindings.Sdl.Document
import SchemaBindings.Sdl.Token
/-!
# Parsing documents

A parser by recursive descent over the tokens of a document. It takes tokens from the front of the
list; the first token is always one that was read without a fault, since a fault stops the parser as
soon as the token before it is taken. Types, values and selections may lie within each other up to
`maxNesting` levels deep; `levels` counts those that are left. Other repetition is bounded by
`fuel`, which `parse` sets above the number of tokens, so that it never runs out.
-/

set_option autoImplicit false
set_option relaxedAutoImplicit false

namespace SchemaBindings.Sdl

/-! ### Faults -/

/-- Why tokens are not a document. -/
inductive SyntaxFault where
  | lexical (fault : LexicalFault)
  | unexpected (found : Token)
  | expectedMark (mark : Mark) (found : Token)
  | expectedName (found : Token)
  | expectedWord (word : String) (found : Token)
  | reservedValue (found : Token)
  | variableInConstant (name : String)
  | describedShorthand
  | describedExtension
  | nestedTooDeeply
  deriving DecidableEq, Repr

/-- The text of a fault. -/
def SyntaxFault.message (fault : SyntaxFault) : String :=
  "Syntax Error: " ++
    match fault with
    | lexical fault => fault.message
    | unexpected found => "Unexpected " ++ found.describe ++ "."
    | expectedMark mark found =>
      "Expected '" ++ mark.text ++ "', found " ++ found.describe ++ "."
    | expectedName found => "Expected Name, found " ++ found.describe ++ "."
    | expectedWord word found => "Expected '" ++ word ++ "', found " ++ found.describe ++ "."
    | reservedValue found =>
      found.describe ++ " is reserved and cannot be used for an enum value."
    | variableInConstant name => "Unexpected variable '$" ++ name ++ "' in constant value."
    | describedShorthand =>
      "Unexpected description, descriptions are not supported on shorthand queries."
    | describedExtension =>
      "Unexpected description, only GraphQL definitions support descriptions."
    | nestedTooDeeply => "Document is nested too deeply. Parsing aborted."

/-- How deep types, values and selections may lie within each other. -/
def maxNesting : Nat := 200

/-- The tokens that are still to be taken, and how many have been. -/
structure Remaining where
  tokens : List Token
  taken : Nat := 0

/-- A parser takes tokens from the front of a list and gives a result or a fault. -/
abbrev Parser (α : Type) : Type :=
  StateT Remaining (Except SyntaxFault) α

namespace Parser

/-! ### Single tokens -/

/-- The next token. -/
def next : Parser Token := do
  return (← get).tokens.head?.getD .endOfText

/-- The token behind the next one. -/
def second : Parser Token := do
  match (← get).tokens.tail.head?.getD .endOfText with
  | .fault fault => throw (.lexical fault)
  | token => return token

/-- Takes the next token; the one behind it must have been read. -/
def advance : Parser Unit := do
  let remaining ← get
  let tokens := remaining.tokens.tail
  match tokens.head? with
  | some (.fault fault) => throw (.lexical fault)
  | _ => set (Remaining.mk tokens (remaining.taken + 1))

/-- The number of the next token, counted from zero. -/
def position : Parser Nat := do
  return (← get).taken

/-- Refuses the next token. -/
def refuse {α : Type} : Parser α := do
  throw (.unexpected (← next))

/-- Whether a mark comes next. -/
def isNext (mark : Mark) : Parser Bool := do
  return (← next) == .mark mark

/-- Takes a mark, which must come next. -/
def expect (mark : Mark) : Parser Unit := do
  if ← isNext mark then advance else throw (.expectedMark mark (← next))

/-- Takes a mark if it comes next. -/
def accept (mark : Mark) : Parser Bool := do
  if ← isNext mark then
    advance
    return true
  return false

/-- Takes a word, which must come next. -/
def expectWord (word : String) : Parser Unit := do
  if (← next) == .name word then advance else throw (.expectedWord word (← next))

/-- Takes a word if it comes next. -/
def acceptWord (word : String) : Parser Bool := do
  if (← next) == .name word then
    advance
    return true
  return false

/-- Takes a name, which must come next. -/
def name : Parser String := do
  match ← next with
  | .name text =>
    advance
    return text
  | token => throw (.expectedName token)

/-- Takes a description if one comes next. -/
def description : Parser (Option String) := do
  match ← next with
  | .string value _ =>
    advance
    return some value
  | _ => return none

/-! ### Repetition -/

/-- Items up to a closing mark, which is taken. -/
def itemsUntil {α : Type} (item : Parser α) (close : Mark) : (fuel : Nat) → Parser (List α)
  | 0 => refuse
  | fuel + 1 => do
    if ← accept close then return []
    let first ← item
    return first :: (← itemsUntil item close fuel)

/-- Items between two marks, or none. -/
def any {α : Type} (fuel : Nat) (opening : Mark) (item : Parser α) (close : Mark) :
    Parser (List α) := do
  expect opening
  itemsUntil item close fuel

/-- One or more items between two marks. -/
def many {α : Type} (fuel : Nat) (opening : Mark) (item : Parser α) (close : Mark) :
    Parser (List α) := do
  expect opening
  let first ← item
  return first :: (← itemsUntil item close fuel)

/-- One or more items between two marks, or nothing at all. -/
def optionalMany {α : Type} (fuel : Nat) (opening : Mark) (item : Parser α) (close : Mark) :
    Parser (List α) := do
  if ← isNext opening then many fuel opening item close else return []

/-- One or more items with a separator between them. -/
def separated {α : Type} (separator : Mark) (item : Parser α) : (fuel : Nat) → Parser (List α)
  | 0 => refuse
  | fuel + 1 => do
    let first ← item
    if ← accept separator then return first :: (← separated separator item fuel)
    return [first]

/-- One or more items with a separator between them and possibly before the first. -/
def separatedAfter {α : Type} (fuel : Nat) (separator : Mark) (item : Parser α) :
    Parser (List α) := do
  let _ ← accept separator
  separated separator item fuel

/-! ### Types, values and directives -/

/-- A type. -/
def typeExpr (levels : Nat) : Parser TypeExpr := do
  let inner ←
    if ← accept .bracketLeft then
      match levels with
      | 0 => throw .nestedTooDeeply
      | levels + 1 => do
        let inner ← typeExpr levels
        expect .bracketRight
        pure (TypeExpr.list inner)
    else
      TypeExpr.named <$> name
  if ← accept .bang then return .nonNull inner
  return inner

/-- The value of a name that stands for one. -/
def namedLiteral : String → Literal
  | "true" => .boolean true
  | "false" => .boolean false
  | "null" => .null
  | text => .enum text

/-- A variable where a value is expected; a constant value holds none. -/
def variableLiteral (constant : Bool) : Parser Literal := do
  expect .dollar
  if constant then
    match ← next with
    | .name text => throw (.variableInConstant text)
    | _ => throw (.unexpected (.mark .dollar))
  return .variable (← name)

/-- A name and a value with a colon between them. -/
def namedValue (value : Parser Literal) : Parser (String × Literal) := do
  let field ← name
  expect .colon
  return (field, ← value)

/-- A value. -/
def literal (constant : Bool) (fuel : Nat) (levels : Nat) : Parser Literal := do
  match ← next, levels with
  | .mark .bracketLeft, levels + 1 =>
    advance
    return .list (← itemsUntil (literal constant fuel levels) .bracketRight fuel)
  | .mark .braceLeft, levels + 1 =>
    advance
    return .object (← itemsUntil (namedValue (literal constant fuel levels)) .braceRight fuel)
  | .mark .bracketLeft, 0 | .mark .braceLeft, 0 => throw .nestedTooDeeply
  | .mark .dollar, _ => variableLiteral constant
  | .int text, _ =>
    advance
    return .int text
  | .float text, _ =>
    advance
    return .float text
  | .string value block, _ =>
    advance
    return .string value block
  | .name text, _ =>
    advance
    return namedLiteral text
  | _, _ => refuse

/-- An argument with its value and the number of the token that the value begins with. -/
def argument (constant : Bool) (fuel levels : Nat) : Parser ((String × Literal) × Nat) := do
  let own ← name
  expect .colon
  let place ← position
  return ((own, ← literal constant fuel levels), place)

/-- Arguments with their values and places, if any. -/
def arguments (constant : Bool) (fuel levels : Nat) : Parser (List ((String × Literal) × Nat)) :=
  optionalMany fuel .parenLeft (argument constant fuel levels) .parenRight

/-- Uses of directives, as many as come next; `rounds` bounds their number. -/
def directivesWithin (constant : Bool) (fuel levels : Nat) :
    (rounds : Nat) → Parser (List DirectiveUse)
  | 0 => refuse
  | rounds + 1 => do
    if ← accept .atSign then
      let used ← name
      let given ← arguments constant fuel levels
      return ⟨used, given.map Prod.fst, given.map Prod.snd⟩ ::
        (← directivesWithin constant fuel levels rounds)
    return []

/-- Uses of directives in a selection, as many as come next. -/
def directives (fuel levels : Nat) : Parser (List DirectiveUse) :=
  directivesWithin false fuel levels fuel

/-- Uses of directives whose arguments hold no variables, as many as come next. -/
def constantDirectives (fuel : Nat) : Parser (List DirectiveUse) :=
  directivesWithin true fuel maxNesting fuel

/-! ### Type system definitions -/

/-- The keyword of an operation. -/
def operation : Parser Operation := do
  match ← next with
  | .name text =>
    advance
    match Operation.ofKeyword? text with
    | some operation => return operation
    | none => throw (.unexpected (.name text))
  | token => throw (.expectedName token)

/-- The root type of an operation. -/
def root : Parser (Operation × String) := do
  let kind ← operation
  expect .colon
  return (kind, ← name)

/-- An argument or input field. -/
def inputDefinition (fuel : Nat) : Parser InputDefinition := do
  let about ← description
  let field ← name
  expect .colon
  let type ← typeExpr maxNesting
  let default? ←
    if ← accept .equals then
      some <$> literal true fuel maxNesting
    else
      pure none
  let used ← constantDirectives fuel
  return { name := field, description := about, type, default?, directives := used }

/-- The arguments of a field or directive, if any. -/
def argumentDefinitions (fuel : Nat) : Parser (List InputDefinition) :=
  optionalMany fuel .parenLeft (inputDefinition fuel) .parenRight

/-- A field of an object or interface. -/
def fieldDefinition (fuel : Nat) : Parser FieldDefinition := do
  let about ← description
  let field ← name
  let taken ← argumentDefinitions fuel
  expect .colon
  let type ← typeExpr maxNesting
  let used ← constantDirectives fuel
  return { name := field, description := about, arguments := taken, type, directives := used }

/-- A value of an enum. Names that stand for other values are reserved. -/
def valueDefinition (fuel : Nat) : Parser ValueDefinition := do
  let about ← description
  let token ← next
  if (token.value?.map ["true", "false", "null"].contains).getD false then
    throw (.reservedValue token)
  let value ← name
  let used ← constantDirectives fuel
  return { name := value, description := about, directives := used }

/-- The interfaces of a type, if any. -/
def implemented (fuel : Nat) : Parser (List String) := do
  if ← acceptWord "implements" then separatedAfter fuel .ampersand name else return []

/-- The members of a union, if any. -/
def unionMembers (fuel : Nat) : Parser (List String) := do
  if ← accept .equals then separatedAfter fuel .pipe name else return []

/-- The name, directives and content of a type whose keyword has been taken. -/
def typeOfKeyword (fuel : Nat) (keyword : String) (about : Option String) :
    Parser TypeDefinition := do
  let own ← name
  let interfaces ←
    if keyword = "type" || keyword = "interface" then implemented fuel else pure []
  let used ← constantDirectives fuel
  let content ←
    match keyword with
    | "scalar" => pure TypeContent.scalar
    | "type" =>
      TypeContent.object interfaces <$>
        optionalMany fuel .braceLeft (fieldDefinition fuel) .braceRight
    | "interface" =>
      TypeContent.interface interfaces <$>
        optionalMany fuel .braceLeft (fieldDefinition fuel) .braceRight
    | "union" => TypeContent.union <$> unionMembers fuel
    | "enum" =>
      TypeContent.enum <$> optionalMany fuel .braceLeft (valueDefinition fuel) .braceRight
    | _ =>
      TypeContent.inputObject <$>
        optionalMany fuel .braceLeft (inputDefinition fuel) .braceRight
  return { name := own, description := about, directives := used, content }

/-- The keywords of types. -/
def typeKeywords : List String :=
  ["scalar", "type", "interface", "union", "enum", "input"]

/-- A place where a directive may be used. -/
def location : Parser Location := do
  match ← next with
  | .name text =>
    advance
    match Location.ofLabel? text with
    | some location => return location
    | none => throw (.unexpected (.name text))
  | token => throw (.expectedName token)

/-- The definition of a directive whose keyword has been taken. -/
def directiveDefinition (fuel : Nat) : Parser DirectiveDefinition := do
  expect .atSign
  let own ← name
  let taken ← argumentDefinitions fuel
  let used ← constantDirectives fuel
  let repeatable ← acceptWord "repeatable"
  expectWord "on"
  let locations ← separatedAfter fuel .pipe location
  return { name := own, arguments := taken, directives := used, repeatable, locations }

/-- An extension of a directive, whose keywords have been taken. It must extend something. -/
def directiveExtension (fuel : Nat) : Parser DirectiveExtension := do
  expect .atSign
  let own ← name
  let used ← constantDirectives fuel
  if used.isEmpty then refuse
  return { name := own, directives := used }

/-- The definition of the schema, whose keyword has been taken. -/
def schemaDefinition (fuel : Nat) : Parser SchemaDefinition := do
  let used ← constantDirectives fuel
  let roots ← many fuel .braceLeft root .braceRight
  return { directives := used, roots }

/-- An extension of the schema, whose keywords have been taken. It must extend something. -/
def schemaExtension (fuel : Nat) : Parser SchemaDefinition := do
  let used ← constantDirectives fuel
  let roots ← optionalMany fuel .braceLeft root .braceRight
  if used.isEmpty && roots.isEmpty then refuse
  return { directives := used, roots }

/-- An extension of a type, whose keywords have been taken. It must extend something. -/
def typeExtension (fuel : Nat) (keyword : String) : Parser TypeDefinition := do
  let extension ← typeOfKeyword fuel keyword none
  if extension.directives.isEmpty && extension.content.isEmpty then refuse
  return extension

/-- An extension. -/
def extension (fuel : Nat) : Parser Definition := do
  match ← second with
  | .name "schema" =>
    expectWord "extend"
    expectWord "schema"
    return .schemaExtension (← schemaExtension fuel)
  | .name "directive" =>
    expectWord "extend"
    expectWord "directive"
    return .directiveExtension (← directiveExtension fuel)
  | .name keyword =>
    if typeKeywords.contains keyword then
      expectWord "extend"
      expectWord keyword
      return .typeExtension (← typeExtension fuel keyword)
    throw (.unexpected (.name keyword))
  | token => throw (.unexpected token)

/-! ### Executable definitions -/

/-- The name of a fragment, which is not `on`. -/
def fragmentName : Parser String := do
  if (← next).value? == some "on" then refuse
  name

/-- Selections between braces. -/
def selections (fuel : Nat) : (levels : Nat) → Parser (List Selection)
  | 0 => throw .nestedTooDeeply
  | levels + 1 =>
    let nested : Parser (List Selection) := selections fuel levels
    let field : Parser Selection := do
      let first ← name
      let own ← if ← accept .colon then name else pure first
      let given ← arguments false fuel levels
      let used ← directives fuel levels
      let inside ← if ← isNext .braceLeft then nested else pure []
      return .field own (given.map Prod.fst) used inside
    let fragment : Parser Selection := do
      expect .spread
      let conditional ← acceptWord "on"
      match conditional, ← next with
      | false, .name _ =>
        let own ← fragmentName
        return .spread own (← directives fuel levels)
      | _, _ =>
        let condition ← if conditional then some <$> name else pure none
        let used ← directives fuel levels
        return .inline condition used (← nested)
    any fuel .braceLeft (do if ← isNext .spread then fragment else field) .braceRight

/-- A variable of an operation. -/
def variableDefinition (fuel : Nat) : Parser VariableDefinition := do
  let _ ← description
  expect .dollar
  let own ← name
  expect .colon
  let type ← typeExpr maxNesting
  let default? ←
    if ← accept .equals then
      some <$> literal true fuel maxNesting
    else
      pure none
  let used ← constantDirectives fuel
  return { name := own, type, default?, directives := used }

/-- An operation with its keyword. -/
def operationDefinition (fuel : Nat) : Parser OperationDefinition := do
  let kind ← operation
  match ← next with
  | .name _ => advance
  | _ => pure ()
  let variableDefinitions ← optionalMany fuel .parenLeft (variableDefinition fuel) .parenRight
  let used ← directives fuel maxNesting
  let chosen ← selections fuel maxNesting
  return { operation := kind, variableDefinitions, directives := used, selections := chosen }

/-- A fragment. -/
def fragmentDefinition (fuel : Nat) : Parser FragmentDefinition := do
  expectWord "fragment"
  let own ← fragmentName
  expectWord "on"
  let condition ← name
  let used ← directives fuel maxNesting
  let chosen ← selections fuel maxNesting
  return { name := own, condition, directives := used, selections := chosen }

/-! ### Documents -/

/-- Whether a description comes next. -/
def isDescribed : Parser Bool := do
  match ← next with
  | .string _ _ => return true
  | _ => return false

/-- A definition. -/
def definition (fuel : Nat) : Parser Definition := do
  if ← isNext .braceLeft then
    return .operation { operation := .query, selections := ← selections fuel maxNesting }
  let described ← isDescribed
  match ← if described then second else next with
  | .name keyword =>
    if keyword = "extend" || !(["schema", "directive", "fragment"].contains keyword ||
        typeKeywords.contains keyword || (Operation.ofKeyword? keyword).isSome) then
      if described then throw .describedExtension
      if keyword = "extend" then
        return ← extension fuel
      throw (.unexpected (.name keyword))
    let about ← description
    if typeKeywords.contains keyword then
      expectWord keyword
      return .type (← typeOfKeyword fuel keyword about)
    if keyword = "schema" then
      expectWord keyword
      return .schema (← schemaDefinition fuel)
    if keyword = "directive" then
      expectWord keyword
      return .directive (← directiveDefinition fuel)
    if keyword = "fragment" then
      return .fragment (← fragmentDefinition fuel)
    return .operation (← operationDefinition fuel)
  | token =>
    if described && token == .mark .braceLeft then throw .describedShorthand
    throw (.unexpected token)

/-- Definitions up to the end of the text. -/
def definitions (one : Parser Definition) : (fuel : Nat) → Parser Document
  | 0 => refuse
  | fuel + 1 => do
    let first ← one
    if (← next) == .endOfText then return [first]
    return first :: (← definitions one fuel)

end Parser

/-- The document that a list of tokens is, with one definition at least. -/
def parseTokens (tokens : List Token) : Except SyntaxFault Document :=
  match tokens with
  | .fault fault :: _ => .error (.lexical fault)
  | tokens =>
    let fuel := tokens.length + 1
    (Parser.definitions (Parser.definition fuel) fuel).run' { tokens }

/-- The document in a text. -/
def parse (text : List Char) : Except SyntaxFault Document :=
  parseTokens (tokens text)

end SchemaBindings.Sdl
