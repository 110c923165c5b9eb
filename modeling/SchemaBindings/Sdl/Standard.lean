import SchemaBindings.Sdl.Document
/-!
# What every schema has

The standard scalars, the meta types that describe a schema to its clients, and the standard
directives, as if a document had defined them.
-/

set_option autoImplicit false
set_option relaxedAutoImplicit false

namespace SchemaBindings.Sdl.Standard

/-! ### Ways to define a type -/

/-- A scalar. -/
def scalar (name description : String) : TypeDefinition :=
  { name, description := some description, content := .scalar }

/-- An object. -/
def object (name description : String) (fields : List FieldDefinition) : TypeDefinition :=
  { name, description := some description, content := .object [] fields }

/-- An enum. -/
def enumeration (name description : String) (values : List (String × String)) : TypeDefinition :=
  { name
    description := some description
    content := .enum (values.map fun (value, about) =>
      { name := value, description := some about }) }

/-- A field without arguments. -/
def plain (name : String) (type : TypeExpr) : FieldDefinition :=
  { name, type }

/-- A field that can leave out what is deprecated. -/
def deprecatable (name : String) (type : TypeExpr) : FieldDefinition :=
  { name
    arguments :=
      [{ name := "includeDeprecated"
         type := .nonNull (.named "Boolean")
         default? := some (.boolean false) }]
    type }

/-- A field with a description. -/
def described (field : FieldDefinition) (description : String) : FieldDefinition :=
  { field with description := some description }

/-! ### Scalars -/

/-- The scalar `Int`. -/
def intScalar : TypeDefinition :=
  scalar "Int"
    ("The \x60Int\x60 scalar type represents non-fractional signed whole " ++
      "numeric values. Int can represent values between -(2^31) and 2^31 - 1.")

/-- The scalar `Float`. -/
def floatScalar : TypeDefinition :=
  scalar "Float"
    ("The \x60Float\x60 scalar type represents signed double-precision " ++
      "fractional values as specified by [IEEE " ++
      "754](https:" ++ "//en.wikipedia.org/wiki/IEEE_floating_point).")

/-- The scalar `ID`. -/
def idScalar : TypeDefinition :=
  scalar "ID"
    ("The \x60ID\x60 scalar type represents a unique identifier, often used " ++
      "to refetch an object or as key for a cache. The ID type appears in a " ++
      "JSON response as a String; however, it is not intended to be " ++
      "human-readable. When expected as an input type, any string (such as " ++
      "\x60\"4\"\x60) or integer (such as \x604\x60) input value will be " ++
      "accepted as an ID.")

/-- The scalar `Boolean`. -/
def booleanScalar : TypeDefinition :=
  scalar "Boolean"
    ("The \x60Boolean\x60 scalar type represents \x60true\x60 or " ++
      "\x60false\x60.")

/-- The scalar `String`. -/
def stringScalar : TypeDefinition :=
  scalar "String"
    ("The \x60String\x60 scalar type represents textual data, represented as " ++
      "UTF-8 character sequences. The String type is most often used by " ++
      "GraphQL to represent free-form human-readable text.")

/-! ### Meta types -/

/-- The meta type `__Schema`. -/
def schemaType : TypeDefinition :=
  object "__Schema"
    ("A GraphQL Schema defines the capabilities of a GraphQL server. It " ++
     "exposes all available types and directives on the server, as well as " ++
     "the entry points for query, mutation, and subscription operations.")
    [
      plain "description" (.named "String"),
      described (plain "types" (.nonNull (.list (.nonNull (.named "__Type")))))
        "A list of all types supported by this server.",
      described (plain "queryType" (.nonNull (.named "__Type")))
        "The type that query operations will be rooted at.",
      described (plain "mutationType" (.named "__Type"))
        ("If this server supports mutation, the type that mutation operations " ++
         "will be rooted at."),
      described (plain "subscriptionType" (.named "__Type"))
        ("If this server supports subscription, the type that subscription " ++
         "operations will be rooted at."),
      described (deprecatable "directives" (.nonNull (.list (.nonNull (.named "__Directive")))))
        "A list of all directives supported by this server."]

/-- The meta type `__Type`. -/
def typeType : TypeDefinition :=
  object "__Type"
    ("The fundamental unit of any GraphQL Schema is the type. There are many " ++
     "kinds of types in GraphQL as represented by the \x60__TypeKind\x60 " ++
     "enum.\n\nDepending on the kind of a type, certain fields describe " ++
     "information about that type. Scalar types provide no information beyond " ++
     "a name, description and optional \x60specifiedByURL\x60, while Enum " ++
     "types provide their values. Object and Interface types provide the " ++
     "fields they describe. Abstract types, Union and Interface, provide the " ++
     "Object types possible at runtime. List and NonNull types compose other " ++
     "types.")
    [
      plain "kind" (.nonNull (.named "__TypeKind")),
      plain "name" (.named "String"),
      plain "description" (.named "String"),
      plain "specifiedByURL" (.named "String"),
      deprecatable "fields" (.list (.nonNull (.named "__Field"))),
      plain "interfaces" (.list (.nonNull (.named "__Type"))),
      plain "possibleTypes" (.list (.nonNull (.named "__Type"))),
      deprecatable "enumValues" (.list (.nonNull (.named "__EnumValue"))),
      deprecatable "inputFields" (.list (.nonNull (.named "__InputValue"))),
      plain "ofType" (.named "__Type"),
      plain "isOneOf" (.named "Boolean")]

/-- The meta type `__TypeKind`. -/
def typeKindType : TypeDefinition :=
  enumeration "__TypeKind"
    "An enum describing what kind of type a given \x60__Type\x60 is."
    [
      ("SCALAR",
        "Indicates this type is a scalar."),
      ("OBJECT",
        "Indicates this type is an object. \x60fields\x60 and \x60interfaces\x60 " ++
        "are valid fields."),
      ("INTERFACE",
        "Indicates this type is an interface. \x60fields\x60, " ++
        "\x60interfaces\x60, and \x60possibleTypes\x60 are valid fields."),
      ("UNION",
        "Indicates this type is a union. \x60possibleTypes\x60 is a valid field."),
      ("ENUM",
        "Indicates this type is an enum. \x60enumValues\x60 is a valid field."),
      ("INPUT_OBJECT",
        "Indicates this type is an input object. \x60inputFields\x60 is a valid " ++
        "field."),
      ("LIST",
        "Indicates this type is a list. \x60ofType\x60 is a valid field."),
      ("NON_NULL",
        "Indicates this type is a non-null. \x60ofType\x60 is a valid field.")]

/-- The meta type `__Field`. -/
def fieldType : TypeDefinition :=
  object "__Field"
    ("Object and Interface types are described by a list of Fields, each of " ++
     "which has a name, potentially a list of arguments, and a return type.")
    [
      plain "name" (.nonNull (.named "String")),
      plain "description" (.named "String"),
      deprecatable "args" (.nonNull (.list (.nonNull (.named "__InputValue")))),
      plain "type" (.nonNull (.named "__Type")),
      plain "isDeprecated" (.nonNull (.named "Boolean")),
      plain "deprecationReason" (.named "String")]

/-- The meta type `__InputValue`. -/
def inputValueType : TypeDefinition :=
  object "__InputValue"
    ("Arguments provided to Fields or Directives and the input fields of an " ++
     "InputObject are represented as Input Values which describe their type " ++
     "and optionally a default value.")
    [
      plain "name" (.nonNull (.named "String")),
      plain "description" (.named "String"),
      plain "type" (.nonNull (.named "__Type")),
      described (plain "defaultValue" (.named "String"))
        ("A GraphQL-formatted string representing the default value for this " ++
         "input value."),
      plain "isDeprecated" (.nonNull (.named "Boolean")),
      plain "deprecationReason" (.named "String")]

/-- The meta type `__EnumValue`. -/
def enumValueType : TypeDefinition :=
  object "__EnumValue"
    ("One possible value for a given Enum. Enum values are unique values, not " ++
     "a placeholder for a string or numeric value. However an Enum value is " ++
     "returned in a JSON response as a string.")
    [
      plain "name" (.nonNull (.named "String")),
      plain "description" (.named "String"),
      plain "isDeprecated" (.nonNull (.named "Boolean")),
      plain "deprecationReason" (.named "String")]

/-- The meta type `__Directive`. -/
def directiveType : TypeDefinition :=
  object "__Directive"
    ("A Directive provides a way to describe alternate runtime execution and " ++
     "type validation behavior in a GraphQL document.\n\nIn some cases, you " ++
     "need to provide options to alter GraphQL's execution behavior in ways " ++
     "field arguments will not suffice, such as conditionally including or " ++
     "skipping a field. Directives provide this by describing additional " ++
     "information to the executor.")
    [
      plain "name" (.nonNull (.named "String")),
      plain "description" (.named "String"),
      plain "isRepeatable" (.nonNull (.named "Boolean")),
      plain "locations" (.nonNull (.list (.nonNull (.named "__DirectiveLocation")))),
      deprecatable "args" (.nonNull (.list (.nonNull (.named "__InputValue")))),
      plain "isDeprecated" (.nonNull (.named "Boolean")),
      plain "deprecationReason" (.named "String")]

/-- The meta type `__DirectiveLocation`. -/
def directiveLocationType : TypeDefinition :=
  enumeration "__DirectiveLocation"
    ("A Directive can be adjacent to many parts of the GraphQL language, a " ++
     "__DirectiveLocation describes one such possible adjacencies.")
    [
      ("QUERY",
        "Location adjacent to a query operation."),
      ("MUTATION",
        "Location adjacent to a mutation operation."),
      ("SUBSCRIPTION",
        "Location adjacent to a subscription operation."),
      ("FIELD",
        "Location adjacent to a field."),
      ("FRAGMENT_DEFINITION",
        "Location adjacent to a fragment definition."),
      ("FRAGMENT_SPREAD",
        "Location adjacent to a fragment spread."),
      ("INLINE_FRAGMENT",
        "Location adjacent to an inline fragment."),
      ("VARIABLE_DEFINITION",
        "Location adjacent to an operation variable definition."),
      ("FRAGMENT_VARIABLE_DEFINITION",
        "Location adjacent to a fragment variable definition."),
      ("SCHEMA",
        "Location adjacent to a schema definition."),
      ("SCALAR",
        "Location adjacent to a scalar definition."),
      ("OBJECT",
        "Location adjacent to an object type definition."),
      ("FIELD_DEFINITION",
        "Location adjacent to a field definition."),
      ("ARGUMENT_DEFINITION",
        "Location adjacent to an argument definition."),
      ("INTERFACE",
        "Location adjacent to an interface definition."),
      ("UNION",
        "Location adjacent to a union definition."),
      ("ENUM",
        "Location adjacent to an enum definition."),
      ("ENUM_VALUE",
        "Location adjacent to an enum value definition."),
      ("INPUT_OBJECT",
        "Location adjacent to an input object type definition."),
      ("INPUT_FIELD_DEFINITION",
        "Location adjacent to an input object field definition."),
      ("DIRECTIVE_DEFINITION",
        "Location adjacent to a directive definition.")]

/-! ### Collections -/

/-- The standard scalars. -/
def scalars : List TypeDefinition :=
  [stringScalar, intScalar, floatScalar, booleanScalar, idScalar]

/-- The meta types. -/
def metaTypes : List TypeDefinition :=
  [schemaType, directiveType, directiveLocationType, typeType, fieldType, inputValueType,
    enumValueType, typeKindType]

/-- The types of every schema. -/
def types : List TypeDefinition :=
  scalars ++ metaTypes

/-- The type of a name, if every schema has it. -/
def type? (name : String) : Option TypeDefinition :=
  types.find? fun type => type.name == name

/-- The reason of a deprecation that gives none. -/
def deprecationReason : String :=
  "No longer supported"

/-- The directive that takes a selection in. -/
def inclusion : DirectiveDefinition :=
  { name := "include"
    arguments := [{ name := "if", type := .nonNull (.named "Boolean") }]
    locations := [.field, .fragmentSpread, .inlineFragment] }

/-- The directive that leaves a selection out. -/
def omission : DirectiveDefinition :=
  { name := "skip"
    arguments := [{ name := "if", type := .nonNull (.named "Boolean") }]
    locations := [.field, .fragmentSpread, .inlineFragment] }

/-- The directive for what should no longer be used. -/
def deprecated : DirectiveDefinition :=
  { name := "deprecated"
    arguments :=
      [{ name := "reason"
         type := .nonNull (.named "String")
         default? := some (.string deprecationReason false) }]
    locations :=
      [.fieldDefinition, .argumentDefinition, .inputFieldDefinition, .enumValue,
        .directiveDefinition] }

/-- The directive for the address of the specification of a scalar. -/
def specifiedBy : DirectiveDefinition :=
  { name := "specifiedBy"
    arguments := [{ name := "url", type := .nonNull (.named "String") }]
    locations := [.scalar] }

/-- The directive for input objects that take exactly one field. -/
def oneOf : DirectiveDefinition :=
  { name := "oneOf", locations := [.inputObject] }

/-- The directives of every schema. -/
def directives : List DirectiveDefinition :=
  [inclusion, omission, deprecated, specifiedBy, oneOf]

end SchemaBindings.Sdl.Standard
