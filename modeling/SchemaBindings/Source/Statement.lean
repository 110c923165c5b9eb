import SchemaBindings.Source.Pattern
/-!
# Statements of a generated module

Recognition of statements, and with it the test that a text is a module: its tokens form a sequence
of statements and nothing is left over. A text with a NUL character is not looked at as a module at
all.
-/

set_option autoImplicit false
set_option relaxedAutoImplicit false

namespace SchemaBindings.Source

/-- The operators that update a place. -/
def updateOperators : List String :=
  ["+=", "-=", "*=", "/=", "//=", "%=", "@=", "&=", "|=", "^=", ">>=", "<<=", "**="]

/-- A dotted name. -/
def dottedName : (fuel : Nat) → Recognizer Unit
  | 0 => failure
  | fuel + 1 => do
    expectName
    if ← accept (.op ".") then dottedName fuel

/-- A new name for something imported, if one is given. -/
def importAlias : Recognizer Unit := do
  if ← accept (.keyword "as") then expectName

/-- Imported modules. -/
def importedModules : (fuel : Nat) → Recognizer Unit
  | 0 => failure
  | fuel + 1 => do
    dottedName fuel
    importAlias
    if ← accept (.op ",") then importedModules fuel

/-- Imported names; within parentheses a comma may end them. -/
def importedNames (grouped : Bool) : (fuel : Nat) → Recognizer Unit
  | 0 => failure
  | fuel + 1 => do
    expectName
    importAlias
    if ← accept (.op ",") then
      if grouped && (← isNext (.op ")")) then return ()
      importedNames grouped fuel

/-- What follows `from`. -/
def importFrom (fuel : Nat) : Recognizer Unit := do
  let before := (← get).length
  modify fun tokens => tokens.dropWhile fun token => token == .op "." || token == .op "..."
  let relative := (← get).length < before
  if !(relative && (← isNext (.keyword "import"))) then dottedName fuel
  expect (.keyword "import")
  if ← accept (.op "*") then return ()
  if ← accept (.op "(") then
    importedNames true fuel
    expect (.op ")")
  else importedNames false fuel

/-- Names separated by commas. -/
def nameList : (fuel : Nat) → Recognizer Unit
  | 0 => failure
  | fuel + 1 => do
    expectName
    if ← accept (.op ",") then nameList fuel

/-- What stands on the right of an assignment. -/
def assigned (fuel : Nat) : Recognizer Shape := do
  if ← accept (.keyword "yield") then
    yielded fuel
    return .other
  expressions fuel

/-- The right-hand sides of an assignment to an expression of a given shape. -/
def assignments : (fuel : Nat) → Shape → Recognizer Unit
  | 0, _ => failure
  | fuel + 1, shape => do
    if ← accept (.op "=") then
      if !shape.isItemTarget then failure
      let next ← assigned fuel
      assignments fuel next

/-- Whether a single place between parentheses comes next, with something else than a colon behind
it. What begins like that is not annotated. -/
def beginsWithPlace (fuel : Nat) : Recognizer Bool := do
  let tokens ← get
  if tokens.head? != some (.op "(") then return false
  match (atom fuel).run tokens with
  | some (shape, rest) => return shape.isSingle && rest.head? != some (.op ":")
  | none => return false

/-- An expression as a statement, an assignment, an update or an annotation. -/
def expressionStatement (fuel : Nat) : Recognizer Unit := do
  let grouped ← beginsWithPlace fuel
  let shape ← assigned fuel
  if ← acceptOp updateOperators then
    if !shape.isSingle then failure
    let _ ← assigned fuel
  else if ← accept (.op ":") then
    if grouped || !shape.isSingle then failure
    let _ ← expression fuel
    if ← accept (.op "=") then
      let _ ← assigned fuel
  else assignments fuel shape

/-- Whether a statement ends here. -/
def atEnd : Recognizer Bool := do
  match (← get).head? with
  | none | some .newline | some (.op ";") => return true
  | some _ => return false

/-- A statement on one line. -/
def simpleStatement (fuel : Nat) : Recognizer Unit := do
  if ← accept (.keyword "pass") then return ()
  if ← accept (.keyword "break") then return ()
  if ← accept (.keyword "continue") then return ()
  if ← accept (.keyword "return") then
    if !(← atEnd) then
      let _ ← expressions fuel
  else if ← accept (.keyword "raise") then
    if !(← atEnd) then
      let _ ← expression fuel
      if ← accept (.keyword "from") then
        let _ ← expression fuel
  else if ← accept (.keyword "global") then nameList fuel
  else if ← accept (.keyword "nonlocal") then nameList fuel
  else if ← accept (.keyword "del") then
    let shape ← expressions fuel
    if !shape.isRemovable then failure
  else if ← accept (.keyword "assert") then
    let _ ← expression fuel
    if ← accept (.op ",") then
      let _ ← expression fuel
  else if ← accept (.keyword "import") then importedModules fuel
  else if ← accept (.keyword "from") then importFrom fuel
  else expressionStatement fuel

/-- Statements on one line, up to the end of the line. -/
def simpleStatements : (fuel : Nat) → Recognizer Unit
  | 0 => failure
  | fuel + 1 => do
    simpleStatement fuel
    if ← accept (.op ";") then
      if ← accept .newline then return ()
      simpleStatements fuel
    else expect .newline

/-- The resources of a `with` statement; within parentheses a comma may end them. -/
def resources (grouped : Bool) : (fuel : Nat) → Recognizer Unit
  | 0 => failure
  | fuel + 1 => do
    let _ ← expression fuel
    if ← accept (.keyword "as") then
      let _ ← accept (.op "*")
      let shape ← primary fuel
      if !shape.isTarget then failure
    if ← accept (.op ",") then
      if grouped && (← isNext (.op ")")) then return ()
      resources grouped fuel

/-- The resources of a `with` statement between parentheses, up to the colon after them. -/
def groupedResources (fuel : Nat) : Recognizer Unit := do
  expect (.op "(")
  resources true fuel
  expect (.op ")")
  if !(← isNext (.op ":")) then failure

/-- Further expressions that a selection is made on, each behind a comma; a comma may end them. -/
def moreSubjects : (fuel : Nat) → Recognizer Unit
  | 0 => failure
  | fuel + 1 => do
    if ← accept (.op ",") then
      if ← isNext (.op ":") then return ()
      let _ ← item fuel
      moreSubjects fuel

/-- Whether something comes next that a decorator may stand before: a class, a function, or another
decorator. -/
def isDecorated : Recognizer Bool := do
  match ← get with
  | .op "@" :: _ | .keyword "class" :: _ | .keyword "def" :: _
  | .keyword "async" :: .keyword "def" :: _ => return true
  | _ => return false

/-- What a selection is made on: an expression that may bind a name, or a list of such expressions
without brackets, each of which may be starred. -/
def subjects (fuel : Nat) : Recognizer Unit := do
  let shape ← item fuel
  if ← isNext (.op ",") then moreSubjects fuel
  else if let .starred _ := shape then failure

mutual

/-- A statement. -/
def statement : (fuel : Nat) → Recognizer Unit
  | 0 => failure
  | fuel + 1 => do
    if ← accept (.op "@") then
      let _ ← binding fuel
      expect .newline
      if !(← isDecorated) then failure
      statement fuel
    else if ← accept (.keyword "class") then
      expectName
      if ← accept (.op "(") then arguments fuel false .positional
      block fuel
    else if ← accept (.keyword "def") then
      expectName
      expect (.op "(")
      parameters fuel true (.op ")") {}
      expect (.op ")")
      if ← accept (.op "->") then
        let _ ← expression fuel
      block fuel
    else if ← accept (.keyword "if") then
      let _ ← binding fuel
      block fuel
      branches fuel
    else if ← accept (.keyword "while") then
      let _ ← binding fuel
      block fuel
      alternative fuel
    else if ← accept (.keyword "for") then
      targets fuel
      expect (.keyword "in")
      let _ ← expressions fuel
      block fuel
      alternative fuel
    else if ← accept (.keyword "with") then
      groupedResources fuel <|> resources false fuel
      block fuel
    else if ← accept (.keyword "async") then
      if (← isNext (.keyword "def")) || (← isNext (.keyword "for")) ||
          (← isNext (.keyword "with")) then
        statement fuel
      else failure
    else if ← accept (.keyword "try") then
      block fuel
      let handled ← handlers fuel none
      if handled then alternative fuel
      if ← accept (.keyword "finally") then block fuel
      else if !handled then failure
    else simpleStatements fuel <|> selection fuel

/-- A selection among cases. Its words are names elsewhere, so that it is tried last. -/
def selection : (fuel : Nat) → Recognizer Unit
  | 0 => failure
  | fuel + 1 => do
    expect (.name "match".toList)
    subjects fuel
    expect (.op ":")
    expect .newline
    expect .indent
    selectionCase fuel
    selectionCases fuel

/-- A case of a selection, with a condition if one is given. -/
def selectionCase : (fuel : Nat) → Recognizer Unit
  | 0 => failure
  | fuel + 1 => do
    expect (.name "case".toList)
    casePattern fuel
    if ← accept (.keyword "if") then
      let _ ← binding fuel
    block fuel

/-- Cases up to the end of the indented lines, which is taken. -/
def selectionCases : (fuel : Nat) → Recognizer Unit
  | 0 => failure
  | fuel + 1 => do
    if ← accept .dedent then return ()
    selectionCase fuel
    selectionCases fuel

/-- A colon and the statements that belong to it, on the same line or indented. -/
def block : (fuel : Nat) → Recognizer Unit
  | 0 => failure
  | fuel + 1 => do
    expect (.op ":")
    if ← accept .newline then
      expect .indent
      statement fuel
      statements fuel .dedent
    else simpleStatements fuel

/-- Statements up to a token that ends them, which is taken. -/
def statements : (fuel : Nat) → (ending : Token) → Recognizer Unit
  | 0, _ => failure
  | fuel + 1, ending => do
    if ← accept ending then return ()
    statement fuel
    statements fuel ending

/-- The branches after the first of an `if`. -/
def branches : (fuel : Nat) → Recognizer Unit
  | 0 => failure
  | fuel + 1 => do
    if ← accept (.keyword "elif") then
      let _ ← binding fuel
      block fuel
      branches fuel
    else alternative fuel

/-- The `else` of a statement, if it has one. -/
def alternative : (fuel : Nat) → Recognizer Unit
  | 0 => failure
  | fuel + 1 => do
    if ← accept (.keyword "else") then block fuel

/-- The handlers of a `try`; whether there are any. All of them are starred, or none, as `starred`
says once it is known; a starred one names what it handles. -/
def handlers : (fuel : Nat) → (starred : Option Bool) → Recognizer Bool
  | 0, _ => failure
  | fuel + 1, starred => do
    if ← accept (.keyword "except") then
      let star ← accept (.op "*")
      if starred == some !star then failure
      if star || !(← isNext (.op ":")) then
        let _ ← expression fuel
        importAlias
      block fuel
      let _ ← handlers fuel (some star)
      return true
    return false

end

/-- Statements up to the end of the tokens. -/
def wholeModule : (fuel : Nat) → Recognizer Unit
  | 0 => failure
  | fuel + 1 => do
    if (← get).isEmpty then return ()
    statement fuel
    wholeModule fuel

/-- The texts that the recognition of a token looks into, each between parentheses. -/
def Token.innerText : Token → List Char
  | .string _ fields => fields.flatMap fun text => '(' :: (text ++ [')'])
  | _ => []

/-- How deep the recognition of some tokens may go. No rule goes through as many as 64 others before
it takes a token. -/
def recognitionDepth (tokens : List Token) : Nat :=
  64 * (tokens.length + (tokens.flatMap Token.innerText).length) + 64

/-- Whether some tokens are those of a module. -/
def areModule (tokens : List Token) : Bool :=
  (wholeModule (recognitionDepth tokens) tokens).isSome

/-- Whether a text is a module. -/
def isModule (text : List Char) : Bool :=
  match tokens? (Text.unifyLineEnds text) with
  | none => false
  | some tokens => areModule tokens

end SchemaBindings.Source
