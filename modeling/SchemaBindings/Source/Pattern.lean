import SchemaBindings.Source.Expression
/-!
# Patterns of a generated module

Recognition of the patterns that the cases of a selection compare a value with: constants, dotted
names, names that are bound, sequences, tables and classes with patterns inside them, alternatives
of such patterns, and names for what a pattern has matched.
-/

set_option autoImplicit false
set_option relaxedAutoImplicit false

namespace SchemaBindings.Source

/-- A name that is bound, which is not a lone underscore. -/
def boundName : Recognizer Unit := do
  if ← isNext (.name ['_']) then failure
  expectName

/-- Further parts of a dotted name; whether there are any. -/
def dottedRest : (fuel : Nat) → Recognizer Bool
  | 0 => failure
  | fuel + 1 => do
    if ← accept (.op ".") then
      expectName
      let _ ← dottedRest fuel
      return true
    return false

/-- A number with an optional sign. An imaginary number may be added to one that is not, or taken
from it. -/
def numberPattern : Recognizer Unit := do
  let _ ← accept (.op "-")
  match ← get with
  | .number imaginary :: rest => do
    set rest
    if ← acceptOp ["+", "-"] then
      if imaginary then failure
      expect (.number true)
  | _ => failure

/-- A constant that may stand in a pattern or as the key of a table. -/
def constantPattern (fuel : Nat) : Recognizer Unit := do
  match ← get with
  | .string bytes _ :: _ => strings fuel bytes
  | .keyword word :: rest =>
    if word == "None" || word == "True" || word == "False" then set rest else failure
  | _ => numberPattern

/-- How far the parts of a class have come: none yet, only parts by position, or named parts. -/
inductive PartStage where
  | first
  | positional
  | named
  deriving DecidableEq, Repr

mutual

/-- A pattern: alternatives, with a name for what they have matched if one is given. -/
def pattern : (fuel : Nat) → Recognizer Unit
  | 0 => failure
  | fuel + 1 => do
    alternatives fuel
    if ← accept (.keyword "as") then boundName

/-- Patterns separated by bars. -/
def alternatives : (fuel : Nat) → Recognizer Unit
  | 0 => failure
  | fuel + 1 => do
    closedPattern fuel
    if ← accept (.op "|") then alternatives fuel

/-- A pattern that no operator divides. A lone underscore matches everything; it is no class and has
no parts. -/
def closedPattern : (fuel : Nat) → Recognizer Unit
  | 0 => failure
  | fuel + 1 => do
    match ← get with
    | .name ['_'] :: rest => set rest
    | .name _ :: rest => do
      set rest
      let _ ← dottedRest fuel
      if ← accept (.op "(") then parts fuel .first
    | .op "[" :: rest => do
      set rest
      sequenceItems fuel (.op "]")
    | .op "(" :: rest => do
      set rest
      if ← accept (.op ")") then return ()
      let starred ← sequenceItem fuel
      if ← accept (.op ")") then
        if starred then failure
      else
        expect (.op ",")
        sequenceItems fuel (.op ")")
    | .op "\x7b" :: rest => do
      set rest
      tableItems fuel
    | _ => constantPattern fuel

/-- An item of a sequence, which may be starred; whether it is. -/
def sequenceItem : (fuel : Nat) → Recognizer Bool
  | 0 => failure
  | fuel + 1 => do
    if ← accept (.op "*") then
      if !(← accept (.name ['_'])) then boundName
      return true
    pattern fuel
    return false

/-- The items of a sequence up to its closing bracket, which a comma may precede. -/
def sequenceItems : (fuel : Nat) → (closing : Token) → Recognizer Unit
  | 0, _ => failure
  | fuel + 1, closing => do
    if ← accept closing then return ()
    let _ ← sequenceItem fuel
    if ← accept closing then return ()
    expect (.op ",")
    sequenceItems fuel closing

/-- The entries of a table up to its closing brace. A name for the other entries comes last. -/
def tableItems : (fuel : Nat) → Recognizer Unit
  | 0 => failure
  | fuel + 1 => do
    if ← accept (.op "\x7d") then return ()
    if ← accept (.op "**") then
      boundName
      let _ ← accept (.op ",")
      expect (.op "\x7d")
    else
      match ← get with
      | .name _ :: rest => do
        set rest
        if !(← dottedRest fuel) then failure
      | _ => constantPattern fuel
      expect (.op ":")
      pattern fuel
      if ← accept (.op "\x7d") then return ()
      expect (.op ",")
      tableItems fuel

/-- The patterns for the parts of a class up to the closing parenthesis. -/
def parts : (fuel : Nat) → PartStage → Recognizer Unit
  | 0, _ => failure
  | fuel + 1, stage => do
    if ← accept (.op ")") then return ()
    let stage ← part fuel stage
    if ← accept (.op ")") then return ()
    expect (.op ",")
    parts fuel stage

/-- The pattern for one part of a class. Named parts come last; the name of the first of them is no
lone underscore if a part by position comes before it. -/
def part : (fuel : Nat) → PartStage → Recognizer PartStage
  | 0, _ => failure
  | fuel + 1, stage => do
    match ← get with
    | .name text :: .op "=" :: rest =>
      if text == ['_'] && stage == .positional then failure
      else do
        set rest
        pattern fuel
        return .named
    | _ =>
      if stage == .named then failure
      else do
        pattern fuel
        return .positional

end

/-- Further items of a sequence without brackets, each behind a comma; a comma may end them. -/
def moreItems : (fuel : Nat) → Recognizer Unit
  | 0 => failure
  | fuel + 1 => do
    if ← accept (.op ",") then
      if (← isNext (.op ":")) || (← isNext (.keyword "if")) then return ()
      let _ ← sequenceItem fuel
      moreItems fuel

/-- The pattern of a case, which may be a sequence without brackets. -/
def casePattern (fuel : Nat) : Recognizer Unit := do
  let starred ← sequenceItem fuel
  if ← isNext (.op ",") then moreItems fuel
  else if starred then failure

end SchemaBindings.Source
