import SchemaBindings.Schema.TypeRef
/-!
# Schemas

A schema is a list of named types and the names of the root types. Each kind of type carries the
payload that applies to it, so an enum has no fields and an object no values.
-/

set_option autoImplicit false
set_option relaxedAutoImplicit false

namespace SchemaBindings

/-- An argument of a field, or a field of an input object. -/
structure InputValue where
  name : String
  type : TypeRef
  description : String := ""
  deriving DecidableEq, Repr

/-- A field of an object or interface. -/
structure Field where
  name : String
  type : TypeRef
  description : String := ""
  arguments : List InputValue := []
  deriving DecidableEq, Repr

/-- A value of an enum. -/
structure EnumValue where
  name : String
  description : String := ""
  deriving DecidableEq, Repr

/-- What a type declares, by kind. -/
inductive TypeBody where
  | scalar
  | object (fields : List Field) (interfaces : List TypeRef)
  | interface (fields : List Field) (possibleTypes : List TypeRef)
  | union (possibleTypes : List TypeRef)
  | enum (values : List EnumValue)
  | inputObject (inputFields : List InputValue)
  deriving DecidableEq, Repr

namespace TypeBody

/-- The kind of a type with this body; never a wrapper. -/
def kind : TypeBody → TypeKind
  | scalar => .scalar
  | object _ _ => .object
  | interface _ _ => .interface
  | union _ => .union
  | enum _ => .enum
  | inputObject _ => .inputObject

end TypeBody

/-- A type of a schema. -/
structure NamedType where
  name : String
  description : String := ""
  body : TypeBody
  deriving DecidableEq, Repr

namespace NamedType

/-- The kind of a type. -/
def kind (type : NamedType) : TypeKind :=
  type.body.kind

/-- Whether a type gets a declaration of its own. -/
def isCustom (type : NamedType) : Bool :=
  type.kind.isCustom

/-- Every reference that a type holds, in the order of its declaration: for each field the
arguments first and then the field's own type, then interfaces or possible types. -/
def references (type : NamedType) : List TypeRef :=
  let ofFields (fields : List Field) : List TypeRef :=
    fields.flatMap fun field => field.arguments.map InputValue.type ++ [field.type]
  match type.body with
  | .scalar => []
  | .object fields interfaces => ofFields fields ++ interfaces
  | .interface fields possibleTypes => ofFields fields ++ possibleTypes
  | .union possibleTypes => possibleTypes
  | .enum _ => []
  | .inputObject inputFields => inputFields.map InputValue.type

end NamedType

/-- A schema: its types, in the order of their declaration, and the names of its root types. -/
structure Schema where
  types : List NamedType := []
  query : Option String := none
  mutation : Option String := none
  subscription : Option String := none
  deriving DecidableEq, Repr

namespace Schema

/-- The first type of a given name. -/
def get? (schema : Schema) (name : String) : Option NamedType :=
  schema.types.find? fun type => type.name == name

/-- The types that get a declaration, in order. -/
def customTypes (schema : Schema) : List NamedType :=
  schema.types.filter NamedType.isCustom

/-- The operations whose root type is declared under a name that is not empty. -/
def roots (schema : Schema) : List (String × String) :=
  [("query", schema.query), ("mutation", schema.mutation),
   ("subscription", schema.subscription)].filterMap fun (operation, root) =>
    match root with
    | some name => if name.isEmpty then none else some (operation, name)
    | none => none

end Schema

end SchemaBindings
