import SchemaBindings.Introspection.Shape
import SchemaBindings.Sdl.Parser
import SchemaBindings.Sdl.Rules
import SchemaBindings.Sdl.StandardUse
import SchemaBindings.Sdl.Validity
/-!
# Introspection of declared schemas

What a client that asks a schema about itself is told: the introspection document of the schema. The
question follows a reference through nine wrappers at most, so the name behind more wrappers is not
part of the answer. A text that is not a document, or whose document or schema is not valid, has no
introspection document.
-/

set_option autoImplicit false
set_option relaxedAutoImplicit false

namespace SchemaBindings.Sdl

/-! ### Documents -/

/-- A text that may be missing. -/
def textEntry : Option String → Json
  | some text => .str text
  | none => .null

/-- The kind of a type with a content. -/
def TypeContent.kind : TypeContent → TypeKind
  | scalar => .scalar
  | object _ _ => .object
  | interface _ _ => .interface
  | union _ => .union
  | enum _ => .enum
  | inputObject _ => .inputObject

/-- The entries of a reference: its kind and name. -/
def referenceEntries (kind : TypeKind) (name : Option String) : List (String × Json) :=
  [("kind", .str kind.label), ("name", textEntry name)]

namespace Declared

/-- The reference to a type, followed through `levels` more references. -/
def referenceDocument (declared : Declared) : (levels : Nat) → TypeExpr → Json
  | 0, .named name => .obj (referenceEntries (declared.content name).kind (some name))
  | 0, .list _ => .obj (referenceEntries .list none)
  | 0, .nonNull _ => .obj (referenceEntries .nonNull none)
  | _ + 1, .named name =>
    .obj (referenceEntries (declared.content name).kind (some name) ++ [("ofType", .null)])
  | levels + 1, .list inner =>
    .obj (referenceEntries .list none ++ [("ofType", declared.referenceDocument levels inner)])
  | levels + 1, .nonNull inner =>
    .obj (referenceEntries .nonNull none ++ [("ofType", declared.referenceDocument levels inner)])

/-- How many wrappers the question follows. -/
def followedWrappers : Nat := 9

/-- The reference to a type. -/
def reference (declared : Declared) (type : TypeExpr) : Json :=
  declared.referenceDocument followedWrappers type

/-- The document of an argument or input field. -/
def inputDocument (declared : Declared) (definition : InputDefinition) : Json :=
  .obj [("name", .str definition.name), ("description", textEntry definition.description),
    ("type", declared.reference definition.type),
    ("defaultValue", textEntry (definition.default?.map Literal.display)),
    ("isDeprecated", .bool (isDeprecated definition.directives))]

/-- The document of a field. -/
def fieldDocument (declared : Declared) (definition : FieldDefinition) : Json :=
  .obj [("name", .str definition.name), ("description", textEntry definition.description),
    ("args", .arr (definition.arguments.map declared.inputDocument)),
    ("type", declared.reference definition.type),
    ("isDeprecated", .bool (isDeprecated definition.directives))]

/-- The document of a value of an enum. -/
def enumValueDocument (definition : ValueDefinition) : Json :=
  .obj [("name", .str definition.name), ("description", textEntry definition.description),
    ("isDeprecated", .bool (isDeprecated definition.directives))]

/-- The entries that a type has by its kind. -/
def contentEntries (declared : Declared) (name : String) : TypeContent → List (String × Json)
  | .scalar => []
  | .object interfaces fields =>
    [("fields", .arr (fields.map declared.fieldDocument)),
      ("interfaces", .arr (interfaces.map fun name => declared.reference (.named name)))]
  | .interface interfaces fields =>
    [("fields", .arr (fields.map declared.fieldDocument)),
      ("interfaces", .arr (interfaces.map fun name => declared.reference (.named name))),
      ("possibleTypes", .arr ((declared.objectsOf name).map fun type =>
        declared.reference (.named type.name)))]
  | .union members =>
    [("possibleTypes", .arr (members.map fun name => declared.reference (.named name)))]
  | .enum values => [("enumValues", .arr (values.map enumValueDocument))]
  | .inputObject fields => [("inputFields", .arr (fields.map declared.inputDocument))]

/-- The document of a type. -/
def typeDocument (declared : Declared) (type : TypeDefinition) : Json :=
  .obj ([("kind", .str type.content.kind.label), ("name", .str type.name),
    ("description", textEntry type.description)] ++
    declared.contentEntries type.name type.content)

/-- The document of the root type of an operation. -/
def rootDocument (declared : Declared) (operation : Operation) : Json :=
  match declared.root? operation with
  | some name => .obj [("name", .str name)]
  | none => .null

/-- The introspection document of a schema. -/
def introspection (declared : Declared) : Json :=
  .obj [("data", .obj [("__schema", .obj
    [("queryType", declared.rootDocument .query),
      ("mutationType", declared.rootDocument .mutation),
      ("subscriptionType", declared.rootDocument .subscription),
      ("types", .arr (declared.types.map declared.typeDocument))])])]

end Declared

/-! ### Texts -/

/-- Why a text has no introspection document. -/
inductive Refusal where
  | notDocument (fault : SyntaxFault)
  | brokenRules (problems : List DocumentProblem)
  | notBuilt (text : List Char) (fault : BuildFault)
  | invalidSchema (problems : List SchemaProblem)
  deriving DecidableEq, Repr

/-- The text of a refusal. -/
def Refusal.message : Refusal → String
  | notDocument fault => "Invalid SDL: " ++ fault.message
  | brokenRules problems =>
    "Invalid SDL: " ++ "\n\n".intercalate (problems.map DocumentProblem.message)
  | notBuilt text fault => "Invalid SDL: " ++ fault.message text
  | invalidSchema problems => "\n\n".intercalate (problems.map SchemaProblem.message)

/-- The introspection document of the schema that a text declares. -/
def introspect (text : List Char) : Except Refusal Json := do
  let document ← (parse text).mapError Refusal.notDocument
  let broken := document.problems
  unless broken.isEmpty do throw (.brokenRules broken)
  if let some fault := document.buildFault? then throw (.notBuilt text fault)
  let declared := document.declared
  let problems := declared.problems
  unless problems.isEmpty do throw (.invalidSchema problems)
  return declared.introspection

end SchemaBindings.Sdl
