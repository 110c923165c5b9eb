import SchemaBindings.Order.Dependency
import SchemaBindings.Text.Quoted
/-!
# The dependency graph

The nodes are the custom types of a list, one for each name: the last declaration of the name counts
and stands at the place of the first. The graph exists when every dependency names a node; it keeps,
under the same keys in the same order, what each node depends on and which nodes depend on it.
-/

set_option autoImplicit false
set_option relaxedAutoImplicit false

namespace SchemaBindings

/-- Why the types of a list have no dependency order. -/
inductive OrderError where
  | unknownType (typeName dependency : String)
  | circular (typeNames : List String)
  deriving DecidableEq, Repr

namespace OrderError

/-- The text of an ordering error. -/
def message : OrderError → String
  | unknownType typeName dependency =>
    "Type " ++ Text.quotedString typeName ++ " references unknown type " ++
      Text.quotedString dependency
  | circular typeNames =>
    "Circular dependencies in schema between: " ++ ", ".intercalate typeNames

end OrderError

/-- Names sorted by code point. -/
def sortNames (names : List String) : List String :=
  names.mergeSort fun a b => decide (a ≤ b)

/-- The types that count: for each custom name its last declaration, at the place of the first. -/
def countedTypes (types : List NamedType) : List NamedType :=
  let custom := types.filter NamedType.isCustom
  (custom.map NamedType.name).eraseDups.filterMap fun name =>
    custom.reverse.find? fun type => type.name == name

/-- The dependencies of a list of types and the inverse relation. -/
structure DependencyGraph where
  types : List NamedType
  dependencies : List (String × List String)
  dependents : List (String × List String)
  deriving Repr

namespace DependencyGraph

/-- The node of a given name. -/
def type? (graph : DependencyGraph) (name : String) : Option NamedType :=
  graph.types.find? fun type => type.name == name

/-- The number of edges. -/
def edgeCount (graph : DependencyGraph) : Nat :=
  (graph.dependencies.flatMap Prod.snd).length

/-- The first node, with its first dependency, that depends on a name outside the list. -/
def firstUnknown (types : List NamedType) : Option (String × String) :=
  types.findSome? fun type =>
    (type.dependencies.find? fun name => !types.any fun other => other.name == name).map
      fun name => (type.name, name)

/-- The names of the types in a list that depend on a name, in the order of the list. -/
def dependentsOf (types : List NamedType) (name : String) : List String :=
  (types.filter fun type => type.dependencies.contains name).map NamedType.name

/-- The graph of a list of types. -/
def ofTypes (types : List NamedType) : Except OrderError DependencyGraph :=
  let counted := countedTypes types
  match firstUnknown counted with
  | some (typeName, dependency) => .error (.unknownType typeName dependency)
  | none =>
    .ok
      { types := counted
        dependencies := counted.map fun type => (type.name, type.dependencies)
        dependents := counted.map fun type => (type.name, dependentsOf counted type.name) }

end DependencyGraph

end SchemaBindings
