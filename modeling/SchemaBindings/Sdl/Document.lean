/-!
# Documents of the schema language

A document is a list of definitions. Most of them declare types and directives or extend what
another definition declares; operations and fragments may stand between them and add nothing to the
schema.
-/

set_option autoImplicit false
set_option relaxedAutoImplicit false

namespace SchemaBindings.Sdl

/-! ### Types and values -/

/-- A type as it is written: a name in list and non-null wrappers. -/
inductive TypeExpr where
  | named (name : String)
  | list (inner : TypeExpr)
  | nonNull (inner : TypeExpr)
  deriving DecidableEq, Repr

namespace TypeExpr

/-- The notation of a type. -/
def display : TypeExpr → String
  | named name => name
  | list inner => "[" ++ inner.display ++ "]"
  | nonNull inner => inner.display ++ "!"

/-- The name inside the wrappers. -/
def base : TypeExpr → String
  | named name => name
  | list inner | nonNull inner => inner.base

/-- Whether null is excluded. -/
def isNonNull : TypeExpr → Bool
  | nonNull _ => true
  | named _ | list _ => false

end TypeExpr

/-- A value as it is written. Numbers keep their text. -/
inductive Literal where
  | int (text : String)
  | float (text : String)
  | string (value : String) (block : Bool)
  | boolean (value : Bool)
  | null
  | enum (name : String)
  | variable (name : String)
  | list (items : List Literal)
  | object (fields : List (String × Literal))
  deriving Repr, Inhabited

/-- The use of a directive. The places are the numbers of the tokens that the values of the
arguments begin with. -/
structure DirectiveUse where
  name : String
  arguments : List (String × Literal) := []
  places : List Nat := []
  deriving Repr

/-! ### Type system definitions -/

/-- The operations that a schema can offer. -/
inductive Operation where
  | query
  | mutation
  | subscription
  deriving DecidableEq, Repr

namespace Operation

/-- All operations. -/
def all : List Operation :=
  [query, mutation, subscription]

/-- The keyword of an operation. -/
def keyword : Operation → String
  | query => "query"
  | mutation => "mutation"
  | subscription => "subscription"

/-- The operation of a keyword. -/
def ofKeyword? (word : String) : Option Operation :=
  all.find? fun operation => operation.keyword == word

/-- The name of the type that stands for an operation when the document declares no schema. -/
def defaultType : Operation → String
  | query => "Query"
  | mutation => "Mutation"
  | subscription => "Subscription"

end Operation

/-- The places where a directive may be used. -/
inductive Location where
  | query
  | mutation
  | subscription
  | field
  | fragmentDefinition
  | fragmentSpread
  | inlineFragment
  | variableDefinition
  | fragmentVariableDefinition
  | schema
  | scalar
  | object
  | fieldDefinition
  | argumentDefinition
  | interface
  | union
  | enum
  | enumValue
  | inputObject
  | inputFieldDefinition
  | directiveDefinition
  deriving DecidableEq, Repr

namespace Location

/-- All places. -/
def all : List Location :=
  [query, mutation, subscription, field, fragmentDefinition, fragmentSpread, inlineFragment,
    variableDefinition, fragmentVariableDefinition, schema, scalar, object, fieldDefinition,
    argumentDefinition, interface, union, enum, enumValue, inputObject, inputFieldDefinition,
    directiveDefinition]

/-- The words for a place. -/
def words : Location → List String
  | query => ["query"]
  | mutation => ["mutation"]
  | subscription => ["subscription"]
  | field => ["field"]
  | fragmentDefinition => ["fragment", "definition"]
  | fragmentSpread => ["fragment", "spread"]
  | inlineFragment => ["inline", "fragment"]
  | variableDefinition => ["variable", "definition"]
  | fragmentVariableDefinition => ["fragment", "variable", "definition"]
  | schema => ["schema"]
  | scalar => ["scalar"]
  | object => ["object"]
  | fieldDefinition => ["field", "definition"]
  | argumentDefinition => ["argument", "definition"]
  | interface => ["interface"]
  | union => ["union"]
  | enum => ["enum"]
  | enumValue => ["enum", "value"]
  | inputObject => ["input", "object"]
  | inputFieldDefinition => ["input", "field", "definition"]
  | directiveDefinition => ["directive", "definition"]

/-- A place in a message. -/
def describe (location : Location) : String :=
  " ".intercalate location.words

/-- The name of a place in a document. -/
def label (location : Location) : String :=
  "_".intercalate (location.words.map String.toUpper)

/-- The place of a name. -/
def ofLabel? (label : String) : Option Location :=
  all.find? fun location => location.label == label

end Location

/-- An argument of a field or directive, or a field of an input object. -/
structure InputDefinition where
  name : String
  description : Option String := none
  type : TypeExpr
  default? : Option Literal := none
  directives : List DirectiveUse := []
  deriving Repr

/-- A field of an object or interface. -/
structure FieldDefinition where
  name : String
  description : Option String := none
  arguments : List InputDefinition := []
  type : TypeExpr
  directives : List DirectiveUse := []
  deriving Repr

/-- A value of an enum. -/
structure ValueDefinition where
  name : String
  description : Option String := none
  directives : List DirectiveUse := []
  deriving Repr

/-- What a definition or an extension of a type declares, by kind. -/
inductive TypeContent where
  | scalar
  | object (interfaces : List String) (fields : List FieldDefinition)
  | interface (interfaces : List String) (fields : List FieldDefinition)
  | union (members : List String)
  | enum (values : List ValueDefinition)
  | inputObject (fields : List InputDefinition)
  deriving Repr

namespace TypeContent

/-- The place of directives on a type with this content. -/
def location : TypeContent → Location
  | scalar => .scalar
  | object _ _ => .object
  | interface _ _ => .interface
  | union _ => .union
  | enum _ => .enum
  | inputObject _ => .inputObject

/-- Whether nothing is declared. -/
def isEmpty : TypeContent → Bool
  | scalar => true
  | object interfaces fields | interface interfaces fields =>
    interfaces.isEmpty && fields.isEmpty
  | union members => members.isEmpty
  | enum values => values.isEmpty
  | inputObject fields => fields.isEmpty

/-- The interfaces, none where the kind has none. -/
def interfaces : TypeContent → List String
  | object interfaces _ | interface interfaces _ => interfaces
  | scalar | union _ | enum _ | inputObject _ => []

/-- The output fields, none where the kind has none. -/
def fields : TypeContent → List FieldDefinition
  | object _ fields | interface _ fields => fields
  | scalar | union _ | enum _ | inputObject _ => []

/-- The members, none where the kind has none. -/
def members : TypeContent → List String
  | union members => members
  | scalar | object _ _ | interface _ _ | enum _ | inputObject _ => []

/-- The values, none where the kind has none. -/
def values : TypeContent → List ValueDefinition
  | enum values => values
  | scalar | object _ _ | interface _ _ | union _ | inputObject _ => []

/-- The input fields, none where the kind has none. -/
def inputFields : TypeContent → List InputDefinition
  | inputObject fields => fields
  | scalar | object _ _ | interface _ _ | union _ | enum _ => []

/-- The names of all fields, of output or of input. -/
def fieldNames (content : TypeContent) : List String :=
  content.fields.map FieldDefinition.name ++ content.inputFields.map InputDefinition.name

end TypeContent

/-- A definition or an extension of a type. -/
structure TypeDefinition where
  name : String
  description : Option String := none
  directives : List DirectiveUse := []
  content : TypeContent
  deriving Repr

/-- A definition or an extension of the schema: the root types of its operations. -/
structure SchemaDefinition where
  directives : List DirectiveUse := []
  roots : List (Operation × String) := []
  deriving Repr

/-- A definition of a directive. -/
structure DirectiveDefinition where
  name : String
  arguments : List InputDefinition := []
  directives : List DirectiveUse := []
  repeatable : Bool := false
  locations : List Location
  deriving Repr

/-- An extension of a directive. -/
structure DirectiveExtension where
  name : String
  directives : List DirectiveUse
  deriving Repr

/-! ### Places -/

/-- A field of a type in dotted notation. -/
def fieldPlace (type field : String) : String :=
  type ++ "." ++ field

/-- An argument of a field, in dotted notation, or of a directive, with its sign. -/
def argumentPlace (owner argument : String) : String :=
  owner ++ "(" ++ argument ++ ":)"

/-- A directive with its sign. -/
def directivePlace (directive : String) : String :=
  "@" ++ directive

/-! ### Executable definitions -/

/-- A part of a selection. -/
inductive Selection where
  | field (name : String) (arguments : List (String × Literal)) (directives : List DirectiveUse)
      (selections : List Selection)
  | spread (name : String) (directives : List DirectiveUse)
  | inline (condition : Option String) (directives : List DirectiveUse)
      (selections : List Selection)
  deriving Repr, Inhabited

/-- A variable of an operation. -/
structure VariableDefinition where
  name : String
  type : TypeExpr
  default? : Option Literal := none
  directives : List DirectiveUse := []
  deriving Repr

/-- An operation. -/
structure OperationDefinition where
  operation : Operation
  variableDefinitions : List VariableDefinition := []
  directives : List DirectiveUse := []
  selections : List Selection
  deriving Repr

/-- A fragment. -/
structure FragmentDefinition where
  name : String
  condition : String
  directives : List DirectiveUse := []
  selections : List Selection
  deriving Repr

/-- A definition of a document. -/
inductive Definition where
  | schema (definition : SchemaDefinition)
  | schemaExtension (definition : SchemaDefinition)
  | type (definition : TypeDefinition)
  | typeExtension (definition : TypeDefinition)
  | directive (definition : DirectiveDefinition)
  | directiveExtension (definition : DirectiveExtension)
  | operation (definition : OperationDefinition)
  | fragment (definition : FragmentDefinition)
  deriving Repr

namespace Definition

/-- The definition of a type. -/
def type? : Definition → Option TypeDefinition
  | type definition => some definition
  | _ => none

/-- The extension of a type. -/
def typeExtension? : Definition → Option TypeDefinition
  | typeExtension definition => some definition
  | _ => none

/-- The definition or extension of a type. -/
def typePart? : Definition → Option TypeDefinition
  | type definition | typeExtension definition => some definition
  | _ => none

/-- The definition of a directive. -/
def directive? : Definition → Option DirectiveDefinition
  | directive definition => some definition
  | _ => none

/-- The directives in use on the definition or an extension of a directive, with its name. -/
def directivePart? : Definition → Option (String × List DirectiveUse)
  | directive definition => some (definition.name, definition.directives)
  | directiveExtension definition => some (definition.name, definition.directives)
  | _ => none

/-- The definition or extension of the schema. -/
def schemaPart? : Definition → Option SchemaDefinition
  | schema definition | schemaExtension definition => some definition
  | _ => none

end Definition

/-- A document. -/
abbrev Document : Type :=
  List Definition

end SchemaBindings.Sdl
