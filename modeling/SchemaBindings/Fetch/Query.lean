/-!
# The introspection query

What a server is asked: its root types, and for every type all that the schema of an introspection
document can hold. References are followed through `followedLevels` levels of wrappers.
-/

set_option autoImplicit false
set_option relaxedAutoImplicit false

namespace SchemaBindings.Fetch

/-- A part of a query: something that is asked for, with what is asked of it in turn. -/
inductive Selection where
  | mk (name : String) (inner : List Selection)
  deriving Repr

/-- Something that has no parts. -/
def Selection.leaf (name : String) : Selection :=
  .mk name []

mutual

/-- The lines of a selection at a level of indentation. -/
def Selection.lines (level : Nat) : Selection → List String
  | .mk name [] => [String.ofList (List.replicate (2 * level) ' ') ++ name]
  | .mk name (part :: parts) =>
    let lead := String.ofList (List.replicate (2 * level) ' ')
    (lead ++ name ++ " \x7b") :: (part.lines (level + 1) ++ Selection.linesAll (level + 1) parts) ++
      [lead ++ "\x7d"]

/-- The lines of some selections. -/
def Selection.linesAll (level : Nat) : List Selection → List String
  | [] => []
  | part :: parts => part.lines level ++ Selection.linesAll level parts

end

open Selection (leaf)

/-- How many wrappers of a reference a server is asked for. -/
def followedLevels : Nat := 9

/-- What is asked of a reference, through some more levels of wrappers. -/
def referenceParts : (levels : Nat) → List Selection
  | 0 => [leaf "kind", leaf "name"]
  | levels + 1 => [leaf "kind", leaf "name", .mk "ofType" (referenceParts levels)]

/-- What is asked of an argument or input field. -/
def inputParts : List Selection :=
  [leaf "name", leaf "description", .mk "type" [leaf "...TypeRef"], leaf "defaultValue"]

/-- What is asked of a field. -/
def fieldParts : List Selection :=
  [leaf "name", leaf "description", .mk "args" [leaf "...InputValue"],
    .mk "type" [leaf "...TypeRef"], leaf "isDeprecated", leaf "deprecationReason"]

/-- What is asked of a type. -/
def typeParts : List Selection :=
  [leaf "kind", leaf "name", leaf "description",
    .mk "fields(includeDeprecated: true)" fieldParts,
    .mk "inputFields" [leaf "...InputValue"],
    .mk "interfaces" [leaf "...TypeRef"],
    .mk "enumValues(includeDeprecated: true)"
      [leaf "name", leaf "description", leaf "isDeprecated", leaf "deprecationReason"],
    .mk "possibleTypes" [leaf "...TypeRef"]]

/-- What is asked of a schema. -/
def schemaParts : List Selection :=
  [.mk "queryType" [leaf "name"], .mk "mutationType" [leaf "name"],
    .mk "subscriptionType" [leaf "name"], .mk "types" [leaf "...FullType"],
    .mk "directives"
      [leaf "name", leaf "description", leaf "locations", .mk "args" [leaf "...InputValue"]]]

/-- The introspection query with the fragments that it uses. -/
def introspectionQuery : String :=
  String.intercalate "\n" (Selection.linesAll 0
    [.mk "query IntrospectionQuery" [.mk "__schema" schemaParts],
      .mk "fragment FullType on __Type" typeParts,
      .mk "fragment InputValue on __InputValue" inputParts,
      .mk "fragment TypeRef on __Type" (referenceParts followedLevels)])

end SchemaBindings.Fetch
