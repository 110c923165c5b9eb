import SchemaBindings.Sdl.Standard
/-!
# The schema that a document declares

The definitions of a document, each joined with its extensions, together with the standard types and
directives that they need. A definition under the name of a standard type stands for the standard
type. The types come in the order in which a client is told about them: the declared ones as in the
document, each followed by what it is the first to refer to, then the types of directive arguments
and the meta types.
-/

set_option autoImplicit false
set_option relaxedAutoImplicit false

namespace SchemaBindings.Sdl

/-- A schema as it is declared: types, directives, and the names of the root types. -/
structure Declared where
  types : List TypeDefinition
  directives : List DirectiveDefinition
  roots : List (Operation × String)
  deriving Repr

/-! ### Joining definitions with extensions -/

/-- Content together with the content of an extension. An extension of another kind adds nothing. -/
def TypeContent.extendedBy : TypeContent → TypeContent → TypeContent
  | object interfaces fields, object interfaces' fields' =>
    object (interfaces ++ interfaces') (fields ++ fields')
  | interface interfaces fields, interface interfaces' fields' =>
    interface (interfaces ++ interfaces') (fields ++ fields')
  | union members, union members' => union (members ++ members')
  | enum values, enum values' => enum (values ++ values')
  | inputObject fields, inputObject fields' => inputObject (fields ++ fields')
  | content, _ => content

namespace Document

/-- A definition joined with the extensions of its type. -/
def joined (document : Document) (definition : TypeDefinition) : TypeDefinition :=
  let extensions := (document.filterMap Definition.typeExtension?).filter fun extension =>
    extension.name == definition.name
  { definition with
    content := extensions.foldl (fun content extension => content.extendedBy extension.content)
      definition.content }

/-- The types that a document declares, in order. -/
def declaredTypes (document : Document) : List TypeDefinition :=
  (document.filterMap Definition.type?).map fun definition =>
    (Standard.type? definition.name).getD (document.joined definition)

/-- The directives that a document can use: its own and then the standard ones. -/
def allDirectives (document : Document) : List DirectiveDefinition :=
  let own := document.filterMap Definition.directive?
  own ++ Standard.directives.filter fun standard =>
    !own.any fun definition => definition.name == standard.name

/-- Whether a document defines the schema, rather than leave it to the names of its types. -/
def definesSchema (document : Document) : Bool :=
  document.any fun definition =>
    match definition with
    | .schema _ => true
    | _ => false

/-- The root types that a document gives to operations. Without a definition of the schema a type
with the default name of an operation is its root. -/
def roots (document : Document) : List (Operation × String) :=
  let given := (document.filterMap Definition.schemaPart?).flatMap SchemaDefinition.roots
  let declared := document.declaredTypes.map TypeDefinition.name
  Operation.all.filterMap fun operation =>
    if !document.definesSchema && declared.contains operation.defaultType then
      some (operation, operation.defaultType)
    else (given.lookup operation).map fun name => (operation, name)

end Document

/-! ### The order of types -/

/-- The names that a type refers to: its interfaces, then for each field its type and the types of
its arguments; the members of a union; the types of input fields. -/
def TypeDefinition.mentions (definition : TypeDefinition) : List String :=
  let content := definition.content
  content.interfaces ++
    content.fields.flatMap (fun field =>
      field.type.base :: field.arguments.map fun argument => argument.type.base) ++
    content.members ++ content.inputFields.map fun field => field.type.base

/-- The names `seen` followed by a name and by all that it leads to, as far as they are new. Each
step adds a name of the table; `fuel` bounds their number. -/
def collect (table : List TypeDefinition) : (fuel : Nat) → List String → String → List String
  | 0, seen, _ => seen
  | fuel + 1, seen, name =>
    if seen.contains name then seen
    else
      let mentions :=
        ((table.find? fun type => type.name == name).map TypeDefinition.mentions).getD []
      mentions.foldl (collect table fuel) (seen ++ [name])

/-- The types that a table of types leads to, in order. A declared type comes at its own place, even
when an earlier one has mentioned it. -/
def orderedNames (table : List TypeDefinition) (declared mentioned : List String) : List String :=
  let fuel := table.length + 1
  let seen := declared.foldl (fun seen name => collect table fuel (seen.erase name) name) declared
  mentioned.foldl (collect table fuel) seen

/-- The name of the meta type that leads to all others. -/
def metaRoot : String := "__Schema"

/-- The schema that a document declares. -/
def Document.declared (document : Document) : Declared :=
  let own := document.declaredTypes
  let table := own ++ Standard.types
  let directives := document.allDirectives
  let mentioned :=
    document.roots.map Prod.snd ++
      directives.flatMap (fun directive =>
        directive.arguments.map fun argument => argument.type.base) ++ [metaRoot]
  let names := orderedNames table (own.map TypeDefinition.name) mentioned
  { types := names.filterMap fun name => table.find? fun type => type.name == name
    directives
    roots := document.roots }

namespace Declared

/-- The type of a name. -/
def type? (declared : Declared) (name : String) : Option TypeDefinition :=
  declared.types.find? fun type => type.name == name

/-- The content of the type of a name; that of a scalar if there is none. -/
def content (declared : Declared) (name : String) : TypeContent :=
  ((declared.type? name).map TypeDefinition.content).getD .scalar

/-- The root type of an operation. -/
def root? (declared : Declared) (operation : Operation) : Option String :=
  declared.roots.lookup operation

/-- The types that declare to implement an interface, in order. -/
def implementations (declared : Declared) (interface : String) : List TypeDefinition :=
  declared.types.filter fun type => type.content.interfaces.contains interface

/-- The object types that declare to implement an interface, in order. -/
def objectsOf (declared : Declared) (interface : String) : List TypeDefinition :=
  (declared.implementations interface).filter fun type => type.content.location = .object

end Declared

/-! ### Deprecation -/

/-- Whether a directive is in use. -/
def uses (directive : String) (directives : List DirectiveUse) : Bool :=
  directives.any fun used => used.name == directive

/-- Whether something is deprecated. -/
def isDeprecated (directives : List DirectiveUse) : Bool :=
  uses "deprecated" directives

/-- Whether an input object takes exactly one of its fields. -/
def TypeDefinition.isOneOf (definition : TypeDefinition) : Bool :=
  uses "oneOf" definition.directives

end SchemaBindings.Sdl
