import SchemaBindings.Source.Token
/-!
# Expressions of a generated module

Recognition of expressions by recursive descent over tokens. The only thing kept of an expression is
its `Shape`, which decides whether it may stand on the left of an assignment. Binary operators of
one level need no grouping for that, so all arithmetic operators are one level here.

Each recognizer consumes tokens from the front and fails when they do not fit. The recursion is
bounded by `fuel`.
-/

set_option autoImplicit false
set_option relaxedAutoImplicit false

namespace SchemaBindings.Source

/-- What can be done to an expression as an item of a list: nothing, assignment only, because there
is a starred expression in it, or assignment and removal. -/
inductive ItemUse where
  | value
  | assignable
  | removable
  deriving DecidableEq, Repr

/-- What can be done to a list with items of two uses. -/
def ItemUse.meet : ItemUse → ItemUse → ItemUse
  | value, _ | _, value => value
  | assignable, _ | _, assignable => assignable
  | removable, removable => removable

/-- What an expression looks like from outside: a name, an attribute or item of something, a list of
expressions (with what can be done to all of them), a starred expression (with whether it is a
target), a bound name, or anything else. -/
inductive Shape where
  | name
  | place
  | sequence (use : ItemUse)
  | starred (target : Bool)
  | bound
  | other
  deriving DecidableEq, Repr

namespace Shape

/-- What can be done to the expression as an item of a list. -/
def itemUse : Shape → ItemUse
  | name | place => .removable
  | sequence use => use
  | starred target => if target then .assignable else .value
  | bound | other => .value

/-- Whether the expression may be assigned to as an item of a list. -/
def isItemTarget (shape : Shape) : Bool :=
  shape.itemUse != .value

/-- Whether a value may be assigned to the expression. -/
def isTarget : Shape → Bool
  | starred _ => false
  | shape => shape.isItemTarget

/-- Whether the expression may be removed. -/
def isRemovable (shape : Shape) : Bool :=
  shape.itemUse == .removable

/-- Whether the expression is a single place, as an update or annotation needs. -/
def isSingle : Shape → Bool
  | name | place => true
  | sequence _ | starred _ | bound | other => false

/-- Whether the expression may stand alone where a colon follows it. -/
def isPlain : Shape → Bool
  | starred _ | bound => false
  | name | place | sequence _ | other => true

end Shape

/-- A recognizer takes tokens from the front of the list, or fails. -/
abbrev Recognizer : Type → Type := StateT (List Token) Option

/-! ### Single tokens -/

/-- Whether the next token is the given one. -/
def isNext (token : Token) : Recognizer Bool := do
  return (← get).head? == some token

/-- Takes the next token if it is the given one. -/
def accept (token : Token) : Recognizer Bool := do
  if ← isNext token then
    modify List.tail
    return true
  return false

/-- Takes the given token, which has to come next. -/
def expect (token : Token) : Recognizer Unit := do
  if ← accept token then return () else failure

/-- Takes a name, which has to come next. -/
def expectName : Recognizer Unit := do
  match ← get with
  | .name _ :: rest => set rest
  | _ => failure

/-- Takes the next token if it is one of the given operators. -/
def acceptOp (ops : List String) : Recognizer Bool := do
  match ← get with
  | .op op :: rest =>
    if ops.contains op then
      set rest
      return true
    return false
  | _ => return false

/-- The operators between arithmetic operands. -/
def arithmeticOperators : List String :=
  ["+", "-", "*", "/", "//", "%", "@", "<<", ">>", "&", "|", "^"]

/-- The comparison signs. -/
def comparisonSigns : List String :=
  ["==", "!=", "<", ">", "<=", ">="]

/-- Takes a comparison, a sign or a word or two, if one comes next. -/
def acceptComparison : Recognizer Bool := do
  if ← acceptOp comparisonSigns then return true
  if ← accept (.keyword "in") then return true
  if ← accept (.keyword "is") then
    let _ ← accept (.keyword "not")
    return true
  match ← get with
  | .keyword "not" :: .keyword "in" :: rest =>
    set rest
    return true
  | _ => return false

/-! ### Expressions -/

/-- How far the arguments of a call have come: only positions so far, names seen, or an unpacked
table of names seen. -/
inductive ArgumentStage where
  | positional
  | named
  | unpacked
  deriving DecidableEq, Repr

/-- How far the parameters of a function have come: whether there are any, whether a slash and a
star have been passed, whether a star without a name still owes one, and whether a parameter with a
default has come before. -/
structure ParameterStage where
  any : Bool := false
  slash : Bool := false
  star : Bool := false
  owed : Bool := false
  defaults : Bool := false
  deriving DecidableEq, Repr

mutual

/-- A conditional expression, a function literal, or an expression of the levels below. -/
def expression : (fuel : Nat) → Recognizer Shape
  | 0 => failure
  | fuel + 1 => do
    if ← accept (.keyword "lambda") then
      parameters fuel false (.op ":") {}
      expect (.op ":")
      let _ ← expression fuel
      return .other
    let shape ← disjunction fuel
    if ← accept (.keyword "if") then
      let _ ← disjunction fuel
      expect (.keyword "else")
      let _ ← expression fuel
      return .other
    return shape

/-- Operands joined by `and` and `or`. -/
def disjunction : (fuel : Nat) → Recognizer Shape
  | 0 => failure
  | fuel + 1 => do
    let shape ← inversion fuel
    if ← accept (.keyword "and") then
      let _ ← disjunction fuel
      return .other
    if ← accept (.keyword "or") then
      let _ ← disjunction fuel
      return .other
    return shape

/-- A comparison with any number of `not` in front. -/
def inversion : (fuel : Nat) → Recognizer Shape
  | 0 => failure
  | fuel + 1 => do
    if ← accept (.keyword "not") then
      let _ ← inversion fuel
      return .other
    comparison fuel

/-- Arithmetic operands joined by comparisons. -/
def comparison : (fuel : Nat) → Recognizer Shape
  | 0 => failure
  | fuel + 1 => do
    let shape ← arithmetic fuel
    if ← acceptComparison then
      let _ ← comparison fuel
      return .other
    return shape

/-- Signed operands joined by arithmetic operators. -/
def arithmetic : (fuel : Nat) → Recognizer Shape
  | 0 => failure
  | fuel + 1 => do
    let shape ← signed fuel
    if ← acceptOp arithmeticOperators then
      let _ ← arithmetic fuel
      return .other
    return shape

/-- An operand with signs in front, or raised to a power. -/
def signed : (fuel : Nat) → Recognizer Shape
  | 0 => failure
  | fuel + 1 => do
    if ← acceptOp ["-", "+", "~"] then
      let _ ← signed fuel
      return .other
    let awaited ← accept (.keyword "await")
    let shape ← primary fuel
    if ← accept (.op "**") then
      let _ ← signed fuel
      return .other
    return if awaited then .other else shape

/-- An atom with attributes, calls and items after it. -/
def primary : (fuel : Nat) → Recognizer Shape
  | 0 => failure
  | fuel + 1 => do
    let shape ← atom fuel
    trailers fuel shape

/-- The attributes, calls and items after an operand of a given shape. -/
def trailers : (fuel : Nat) → Shape → Recognizer Shape
  | 0, _ => failure
  | fuel + 1, shape => do
    if ← accept (.op ".") then
      expectName
      trailers fuel .place
    else if ← accept (.op "(") then
      arguments fuel true .positional
      trailers fuel .other
    else if ← accept (.op "[") then
      slices fuel
      trailers fuel .place
    else return shape

/-- A name, a constant, or something in brackets. -/
def atom : (fuel : Nat) → Recognizer Shape
  | 0 => failure
  | fuel + 1 => do
    match ← get with
    | .name _ :: rest => do
      set rest
      return .name
    | .number _ :: rest => do
      set rest
      return .other
    | .string bytes _ :: _ => do
      strings fuel bytes
      return .other
    | .keyword word :: rest =>
      if word == "None" || word == "True" || word == "False" then do
        set rest
        return .other
      else failure
    | .op "..." :: rest => do
      set rest
      return .other
    | .op "(" :: rest => do
      set rest
      parenthesized fuel
    | .op "[" :: rest => do
      set rest
      bracketed fuel
    | .op "\x7b" :: rest => do
      set rest
      braced fuel
      return .other
    | _ => failure

/-- Strings as long as they come next; all are made of bytes, or none. -/
def strings : (fuel : Nat) → (bytes : Bool) → Recognizer Unit
  | 0, _ => failure
  | fuel + 1, bytes => do
    match ← get with
    | .string kind fields :: rest => do
      if kind != bytes then failure
      embedded fuel fields
      set rest
      strings fuel bytes
    | _ => return ()

/-- Texts that stand in the fields of a string, each of which is one expression when it is put
between parentheses. The tokens after the string are not looked at. -/
def embedded : (fuel : Nat) → List (List Char) → Recognizer Unit
  | 0, _ => failure
  | _ + 1, [] => return ()
  | fuel + 1, text :: texts => do
    match tokens? ('(' :: (text ++ [')'])) with
    | none => failure
    | some tokens =>
      match (atom fuel).run tokens with
      | some (_, [.newline]) => embedded fuel texts
      | _ => failure

/-- A starred expression, or an expression that may bind a name. -/
def item : (fuel : Nat) → Recognizer Shape
  | 0 => failure
  | fuel + 1 => do
    if ← accept (.op "*") then
      let shape ← arithmetic fuel
      return .starred shape.isTarget
    binding fuel

/-- An expression, or a name bound to one. -/
def binding : (fuel : Nat) → Recognizer Shape
  | 0 => failure
  | fuel + 1 => do
    match ← get with
    | .name _ :: .op ":=" :: rest => do
      set rest
      let _ ← expression fuel
      return .bound
    | _ => expression fuel

/-- Items up to a closing bracket, each behind a comma; what can be done to all of
them. -/
def itemsUntil : (fuel : Nat) → (closing : Token) → Recognizer ItemUse
  | 0, _ => failure
  | fuel + 1, closing => do
    if ← accept closing then return .removable
    expect (.op ",")
    if ← accept closing then return .removable
    let shape ← item fuel
    let others ← itemsUntil fuel closing
    return shape.itemUse.meet others

/-- What follows an opening parenthesis: an empty list, a list, a generator, or one expression. -/
def parenthesized : (fuel : Nat) → Recognizer Shape
  | 0 => failure
  | fuel + 1 => do
    if ← accept (.op ")") then return .sequence .removable
    if ← accept (.keyword "yield") then
      yielded fuel
      expect (.op ")")
      return .other
    let shape ← item fuel
    if ← accept (.op ")") then
      match shape with
      | .starred _ => failure
      | .bound => return .other
      | shape => return shape
    if ← isNext (.op ",") then
      let others ← itemsUntil fuel (.op ")")
      return .sequence (shape.itemUse.meet others)
    match shape with
    | .starred _ => failure
    | _ => do
      comprehension fuel
      expect (.op ")")
      return .other

/-- What follows an opening square bracket: a list, or a comprehension. -/
def bracketed : (fuel : Nat) → Recognizer Shape
  | 0 => failure
  | fuel + 1 => do
    if ← accept (.op "]") then return .sequence .removable
    let shape ← item fuel
    if (← isNext (.op ",")) || (← isNext (.op "]")) then
      let others ← itemsUntil fuel (.op "]")
      return .sequence (shape.itemUse.meet others)
    match shape with
    | .starred _ => failure
    | _ => do
      comprehension fuel
      expect (.op "]")
      return .other

/-- What follows an opening brace: a table or a set. -/
def braced : (fuel : Nat) → Recognizer Unit
  | 0 => failure
  | fuel + 1 => do
    if ← accept (.op "\x7d") then return ()
    if ← isNext (.op "**") then
      entries fuel
    else
      let shape ← item fuel
      if ← accept (.op ":") then
        if !shape.isPlain then failure
        let _ ← expression fuel
        if (← isNext (.keyword "for")) || (← isNext (.keyword "async")) then
          comprehension fuel
          expect (.op "\x7d")
        else if ← accept (.op "\x7d") then return ()
        else
          expect (.op ",")
          entries fuel
      else if (← isNext (.op ",")) || (← isNext (.op "\x7d")) then
        let _ ← itemsUntil fuel (.op "\x7d")
      else
        match shape with
        | .starred _ => failure
        | _ => do
          comprehension fuel
          expect (.op "\x7d")

/-- The entries of a table up to its closing brace. -/
def entries : (fuel : Nat) → Recognizer Unit
  | 0 => failure
  | fuel + 1 => do
    if ← accept (.op "\x7d") then return ()
    if ← accept (.op "**") then
      let _ ← arithmetic fuel
    else
      let _ ← expression fuel
      expect (.op ":")
      let _ ← expression fuel
    if ← accept (.op "\x7d") then return ()
    expect (.op ",")
    entries fuel

/-- The loops and conditions of a comprehension; at least one loop. -/
def comprehension : (fuel : Nat) → Recognizer Unit
  | 0 => failure
  | fuel + 1 => do
    let _ ← accept (.keyword "async")
    expect (.keyword "for")
    targets fuel
    expect (.keyword "in")
    let _ ← disjunction fuel
    conditions fuel
    if (← isNext (.keyword "for")) || (← isNext (.keyword "async")) then comprehension fuel

/-- The conditions of a comprehension. -/
def conditions : (fuel : Nat) → Recognizer Unit
  | 0 => failure
  | fuel + 1 => do
    if ← accept (.keyword "if") then
      let _ ← disjunction fuel
      conditions fuel

/-- The targets of a loop. -/
def targets : (fuel : Nat) → Recognizer Unit
  | 0 => failure
  | fuel + 1 => do
    let _ ← accept (.op "*")
    let shape ← primary fuel
    if !shape.isTarget then failure
    if ← accept (.op ",") then
      if !(← isNext (.keyword "in")) then targets fuel

/-- The arguments of a call up to the closing parenthesis. A generator may stand there if `alone`
says that no argument has come before. -/
def arguments : (fuel : Nat) → (alone : Bool) → ArgumentStage → Recognizer Unit
  | 0, _, _ => failure
  | fuel + 1, alone, stage => do
    if ← accept (.op ")") then return ()
    let stage ← argument fuel alone stage
    if ← accept (.op ")") then return ()
    expect (.op ",")
    arguments fuel false stage

/-- One argument of a call; a generator stands alone before the closing parenthesis. -/
def argument : (fuel : Nat) → (alone : Bool) → ArgumentStage → Recognizer ArgumentStage
  | 0, _, _ => failure
  | fuel + 1, alone, stage => do
    match ← get with
    | .op "**" :: rest => do
      set rest
      let _ ← expression fuel
      return .unpacked
    | .op "*" :: rest =>
      if stage == .unpacked then failure
      else do
        set rest
        let _ ← expression fuel
        return stage
    | .name _ :: .op "=" :: rest => do
      set rest
      let _ ← expression fuel
      return if stage == .unpacked then .unpacked else .named
    | _ =>
      if stage != .positional then failure
      else do
        let _ ← binding fuel
        if alone && ((← isNext (.keyword "for")) || (← isNext (.keyword "async"))) then
          comprehension fuel
          if !(← isNext (.op ")")) then failure
        return stage

/-- The items or ranges between square brackets, up to the closing one; at least one. -/
def slices : (fuel : Nat) → Recognizer Unit
  | 0 => failure
  | fuel + 1 => do
    slice fuel
    if ← accept (.op "]") then return ()
    expect (.op ",")
    if ← accept (.op "]") then return ()
    slices fuel

/-- An item or a range. -/
def slice : (fuel : Nat) → Recognizer Unit
  | 0 => failure
  | fuel + 1 => do
    if ← accept (.op ":") then rangeEnd fuel
    else if ← accept (.op "*") then
      let _ ← expression fuel
    else
      let shape ← item fuel
      if ← accept (.op ":") then
        if !shape.isPlain then failure
        rangeEnd fuel

/-- What follows the first colon of a range. -/
def rangeEnd : (fuel : Nat) → Recognizer Unit
  | 0 => failure
  | fuel + 1 => do
    if !((← isNext (.op ":")) || (← isNext (.op ",")) || (← isNext (.op "]"))) then
      let _ ← expression fuel
    if ← accept (.op ":") then
      if !((← isNext (.op ",")) || (← isNext (.op "]"))) then
        let _ ← expression fuel

/-- The parameters of a function up to a token that ends them, which is not taken. -/
def parameters : (fuel : Nat) → (annotated : Bool) → (ending : Token) → ParameterStage →
    Recognizer Unit
  | 0, _, _, _ => failure
  | fuel + 1, annotated, ending, stage => do
    if ← isNext ending then
      if stage.owed then failure else return ()
    if ← accept (.op "**") then
      if stage.owed then failure
      parameterName fuel annotated
      let _ ← accept (.op ",")
      if ← isNext ending then return () else failure
    let stage ← parameter fuel annotated stage
    if ← isNext ending then
      if stage.owed then failure else return ()
    expect (.op ",")
    parameters fuel annotated ending stage

/-- One parameter, or a slash or star between parameters. -/
def parameter : (fuel : Nat) → (annotated : Bool) → ParameterStage → Recognizer ParameterStage
  | 0, _, _ => failure
  | fuel + 1, annotated, stage => do
    if ← accept (.op "/") then
      if !stage.any || stage.slash || stage.star then failure
      return { stage with slash := true }
    if ← accept (.op "*") then
      if stage.star then failure
      if ← isNext (.op ",") then return { stage with star := true, owed := true }
      expectName
      if annotated then
        if ← accept (.op ":") then
          let _ ← starredExpression fuel
      return { stage with star := true }
    parameterName fuel annotated
    if ← accept (.op "=") then
      let _ ← expression fuel
      return { stage with any := true, owed := false, defaults := true }
    if stage.defaults && !stage.star then failure
    return { stage with any := true, owed := false }

/-- The name of a parameter, with an annotation if such are allowed. -/
def parameterName : (fuel : Nat) → (annotated : Bool) → Recognizer Unit
  | 0, _ => failure
  | fuel + 1, annotated => do
    expectName
    if annotated then annotation fuel

/-- The annotation of a parameter, if there is one. -/
def annotation : (fuel : Nat) → Recognizer Unit
  | 0 => failure
  | fuel + 1 => do
    if ← accept (.op ":") then
      let _ ← expression fuel

/-- What follows `yield`. -/
def yielded : (fuel : Nat) → Recognizer Unit
  | 0 => failure
  | fuel + 1 => do
    if ← accept (.keyword "from") then
      let _ ← expression fuel
    else
      match (← get).head? with
      | none | some .newline => return ()
      | some (.op op) =>
        if [")", "]", "\x7d", ";", "="].contains op then return ()
        else
          let _ ← expressions fuel
      | some _ =>
        let _ ← expressions fuel

/-- One expression, or a list of expressions without brackets, each of which may be starred. -/
def expressions : (fuel : Nat) → Recognizer Shape
  | 0 => failure
  | fuel + 1 => do
    let shape ← starredExpression fuel
    if ← isNext (.op ",") then
      let others ← moreExpressions fuel
      return .sequence (shape.itemUse.meet others)
    return shape

/-- An expression that may be starred. -/
def starredExpression : (fuel : Nat) → Recognizer Shape
  | 0 => failure
  | fuel + 1 => do
    if ← accept (.op "*") then
      let shape ← arithmetic fuel
      return .starred shape.isTarget
    expression fuel

/-- Further expressions of a list without brackets, each behind a comma; what can be done to all
of them. A comma may end the list. -/
def moreExpressions : (fuel : Nat) → Recognizer ItemUse
  | 0 => failure
  | fuel + 1 => do
    if ← accept (.op ",") then
      let ended := match (← get).head? with
        | none | some .newline => true
        | some (.op op) => [")", "]", "\x7d", ";", "=", ":"].contains op
        | some _ => false
      if ended then return .removable
      let shape ← starredExpression fuel
      let others ← moreExpressions fuel
      return shape.itemUse.meet others
    return .removable

end

end SchemaBindings.Source
