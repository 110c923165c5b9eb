import SchemaBindings.Sdl.Declared
import SchemaBindings.Sdl.LiteralText
import SchemaBindings.Text.Suggestion
/-!
# Values for input types

Whether a value that a document writes fits a type. A single value fits a list type if it fits the
type of the items. A fault says where in the value it lies.
-/

set_option autoImplicit false
set_option relaxedAutoImplicit false

namespace SchemaBindings.Sdl

open SchemaBindings.Text

/-! ### Faults -/

/-- Why a value does not fit a type. -/
inductive ValueFault where
  | nullValue (type : TypeExpr)
  | notObject (type : String) (found : String)
  | missingEntry (type field : String) (found : String)
  | unknownEntry (type field : String) (similar : List String) (found : String)
  | notOneEntry (type : String)
  | notInteger (found : String)
  | integerTooLarge (found : String)
  | notNumber (found : String)
  | notText (found : String)
  | notTruth (found : String)
  | notIdentifier (found : String)
  | notValueName (type : String) (found : String) (similar : List String)
  | unknownValue (type : String) (found : String) (similar : List String)
  | notInputType (type : String)
  deriving DecidableEq, Repr

/-- The text of a fault. -/
def ValueFault.message : ValueFault → String
  | nullValue type => "Expected value of non-null type '" ++ type.display ++ "' not to be None."
  | notObject type found =>
    "Expected value of type '" ++ type ++ "' to be an object, found: " ++ found ++ "."
  | missingEntry type field found =>
    "Expected value of type '" ++ type ++ "' to include required field '" ++ field ++
      "', found: " ++ found ++ "."
  | unknownEntry type field similar found =>
    "Expected value of type '" ++ type ++ "' not to include unknown field '" ++ field ++ "'" ++
      (if similar.isEmpty then ", found: " else "." ++ didYouMean "" similar ++ " Found: ") ++
      found ++ "."
  | notOneEntry type =>
    "Within OneOf Input Object type '" ++ type ++ "', exactly one field must be specified, and " ++
      "the value for that field must be non-null."
  | notInteger found => "Int cannot represent non-integer value: " ++ found
  | integerTooLarge found => "Int cannot represent non 32-bit signed integer value: " ++ found
  | notNumber found => "Float cannot represent non numeric value: " ++ found
  | notText found => "String cannot represent a non string value: " ++ found
  | notTruth found => "Boolean cannot represent a non boolean value: " ++ found
  | notIdentifier found => "ID cannot represent a non-string and non-integer value: " ++ found
  | notValueName type found similar =>
    "Enum '" ++ type ++ "' cannot represent non-enum value: " ++ found ++ "." ++
      didYouMean "the enum value " similar
  | unknownValue type found similar =>
    "Value '" ++ found ++ "' does not exist in '" ++ type ++ "' enum." ++
      didYouMean "the enum value " similar
  | notInputType type => "Expected " ++ type ++ " to be a GraphQL leaf type."

/-- A step into a value. -/
inductive ValueStep where
  | item (index : Nat)
  | entry (field : String)
  deriving DecidableEq, Repr

/-- A fault and the way to it. -/
structure ValueFaultAt where
  path : List ValueStep := []
  fault : ValueFault
  deriving DecidableEq, Repr

/-- A fault with a step in front of its way. -/
def ValueFaultAt.under (step : ValueStep) (fault : ValueFaultAt) : ValueFaultAt :=
  { fault with path := step :: fault.path }

/-- The way to a fault in a message. -/
def pathText (path : List ValueStep) : String :=
  if path.isEmpty then ""
  else
    " at " ++ String.join (path.map fun step =>
      match step with
      | .item index => "[" ++ toString index ++ "]"
      | .entry field => "." ++ field)

/-! ### Scalars and enums -/

/-- The integer that a text writes. -/
def integerOf (text : List Char) : Int :=
  match text with
  | '-' :: digits => -(decimalValue digits : Int)
  | digits => decimalValue digits

/-- Whether an integer has 32 bits at most. -/
def isSmallInteger (value : Int) : Bool :=
  -2147483648 ≤ value && value < 2147483648

/-- The faults of a value for a scalar. Scalars that a document declares take any value. -/
def scalarFaults (type : String) (literal : Literal) : List ValueFault :=
  let found := literal.display
  match type, literal with
  | "Int", .int text =>
    if isSmallInteger (integerOf text.toList) then [] else [.integerTooLarge text]
  | "Int", _ => [.notInteger found]
  | "Float", .int _ | "Float", .float _ => []
  | "Float", _ => [.notNumber found]
  | "String", .string _ _ => []
  | "String", _ => [.notText found]
  | "Boolean", .boolean _ => []
  | "Boolean", _ => [.notTruth found]
  | "ID", .string _ _ | "ID", .int _ => []
  | "ID", _ => [.notIdentifier found]
  | _, _ => []

/-- The faults of a value for an enum. -/
def enumFaults (type : String) (values : List String) (literal : Literal) : List ValueFault :=
  let found := literal.display
  match literal with
  | .enum name =>
    if values.contains name then [] else [.unknownValue type found (suggestions found values)]
  | _ => [.notValueName type found (suggestions found values)]

/-! ### Values -/

/-- A type without its outer non-null wrapper. -/
def TypeExpr.nullable : TypeExpr → TypeExpr
  | nonNull inner => inner
  | type => type

/-- Whether a field has to be given. -/
def InputDefinition.isRequired (definition : InputDefinition) : Bool :=
  definition.type.isNonNull && definition.default?.isNone

/-- The faults of an object as a whole: required fields that it lacks, fields that it should not
have, and for an input object that takes exactly one field how many of its fields are given. They
come in two parts, for the faults of the given fields lie between them. -/
def entryFaults (type : String) (oneOf : Bool) (fields : List InputDefinition)
    (given : List (String × Literal)) (inside : List (String × List ValueFaultAt)) :
    List ValueFaultAt :=
  let found := (Literal.object given).display
  let known := fields.map InputDefinition.name
  let ofField (field : InputDefinition) : List ValueFaultAt :=
    match inside.reverse.lookup field.name with
    | some faults => faults.map (.under (.entry field.name))
    | none => if field.isRequired then [⟨[], .missingEntry type field.name found⟩] else []
  let unknown := given.filterMap fun (name, _) =>
    if known.contains name then none
    else some ⟨[], .unknownEntry type name (suggestions name known) found⟩
  let single : List ValueFaultAt :=
    if !oneOf then []
    else
      match given.filter fun (name, _) => known.contains name with
      | [(name, .null)] => [⟨[.entry name], .notOneEntry type⟩]
      | [_] => []
      | _ => [⟨[], .notOneEntry type⟩]
  fields.flatMap ofField ++ unknown ++ single

/-- The faults of a value other than a list or an object for the type of a name. -/
def leafFaults (declared : Declared) (type : String) (literal : Literal) : List ValueFault :=
  match declared.content type with
  | .scalar => scalarFaults type literal
  | .enum values => enumFaults type (values.map ValueDefinition.name) literal
  | .inputObject _ => [.notObject type literal.display]
  | .object _ _ | .interface _ _ | .union _ => [.notInputType type]

mutual

/-- The faults of a value for a type. -/
def valueFaults (declared : Declared) (literal : Literal) (type : TypeExpr) : List ValueFaultAt :=
  match literal with
  | .variable _ => []
  | .null => if type.isNonNull then [⟨[], .nullValue type⟩] else []
  | .list items =>
    match type.nullable with
    | .list inner => itemFaults declared items inner 0
    | type => (leafFaults declared type.base (.list items)).map (⟨[], ·⟩)
  | .object given =>
    match declared.type? type.base with
    | some { content := .inputObject fields, directives, .. } =>
      entryFaults type.base (uses "oneOf" directives) fields given
        (givenFaults declared fields given)
    | _ => (leafFaults declared type.base (.object given)).map (⟨[], ·⟩)
  | literal => (leafFaults declared type.base literal).map (⟨[], ·⟩)

/-- The faults of the items of a list. -/
def itemFaults (declared : Declared) (items : List Literal) (type : TypeExpr) (index : Nat) :
    List ValueFaultAt :=
  match items with
  | [] => []
  | item :: items =>
    (valueFaults declared item type).map (.under (.item index)) ++
      itemFaults declared items type (index + 1)

/-- The faults within the fields of an object that the type has, each under the name of its
field. -/
def givenFaults (declared : Declared) (fields : List InputDefinition)
    (given : List (String × Literal)) : List (String × List ValueFaultAt) :=
  match given with
  | [] => []
  | (name, value) :: given =>
    match fields.find? fun field => field.name == name with
    | some field =>
      (name, valueFaults declared value field.type) :: givenFaults declared fields given
    | none => givenFaults declared fields given

end

end SchemaBindings.Sdl
